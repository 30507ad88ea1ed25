import TaggedSuite.Source.Token
import TaggedSuite.Source.Tree
import TaggedSuite.Text.Compatibility

/-!
# Reading tokens

A rule reads from the front of the tokens or fails. A rule that fails has read nothing, so another
one can be tried in its place.
-/
namespace TaggedSuite.Source

abbrev Rule := StateT (List Token) Option

namespace Rule

/-- The next token, which stays. -/
def peek : Rule (Option Token) := do return (← get).head?

def line : Rule Nat := do return ((← peek).map (·.line)).getD 0

/-- Drops the next token. -/
def skip : Rule Unit := modify List.tail

def isNext (kind : TokenKind) : Rule Bool := do return (← peek).any fun t => t.kind == kind

def isOperator (o : String) : Rule Bool := isNext (.operator o)

/-- Whether the next token is the keyword, or another word. -/
def isWord (w : String) : Rule Bool := isNext (.name w)

def expect (kind : TokenKind) : Rule Unit := do if ← isNext kind then skip else failure

def operator (o : String) : Rule Unit := expect (.operator o)

/-- Reads the keyword, or another word. -/
def word (w : String) : Rule Unit := expect (.name w)

/-- Reads a token of the kind if it is next, and says whether it was. -/
def accept (kind : TokenKind) : Rule Bool := do
  if ← isNext kind then skip; return true
  else return false

/-- Reads the operator if it is next, and says whether it was. -/
def acceptOperator (o : String) : Rule Bool := accept (.operator o)

/-- Reads the word if it is next, and says whether it was. -/
def acceptWord (w : String) : Rule Bool := accept (.name w)

/-- Reads the first of the operators that is next. -/
def oneOf (operators : List String) : Rule String := do
  match ← peek with
  | some ⟨.operator o, _⟩ => if operators.contains o then skip; return o else failure
  | _ => failure

/-- Reads a name that is no keyword, in its compatible form. -/
def name : Rule String := do
  match ← peek with
  | some ⟨.name n, _⟩ =>
    if keywords.contains n then failure else skip; return Text.compatibleForm n
  | _ => failure

/-- Whether the next two tokens are a name and the operator. -/
def isNameThen (o : String) : Rule Bool := do
  match ← get with
  | ⟨.name n, _⟩ :: ⟨.operator p, _⟩ :: _ => return p == o && !keywords.contains n
  | _ => return false

/-- The result of the rule, or nothing if it fails. -/
def optional' {α : Type} (rule : Rule α) : Rule (Option α) := fun ts =>
  match rule ts with
  | some (a, rest) => some (some a, rest)
  | none => some (none, ts)

/-- Results of the rule until it fails, at most one for each of the given tokens. -/
def repeatFor {α : Type} (rule : Rule α) : List Token → Rule (List α)
  | [] => return []
  | _ :: bound => do
    match ← optional' rule with
    | some a => return a :: (← repeatFor rule bound)
    | none => return []

/-- Results of the rule until it fails. Every result has to read a token. -/
def many {α : Type} (rule : Rule α) : Rule (List α) := do repeatFor rule (← get)

/-- One or more results of the rule. -/
def many1 {α : Type} (rule : Rule α) : Rule (List α) := do
  let first ← rule
  return first :: (← many rule)

/-- One or more results of the rule between commas. -/
def commaSeparated {α : Type} (rule : Rule α) : Rule (List α) := do
  let first ← rule
  let others ← many (do operator ","; rule)
  return first :: others

end Rule

end TaggedSuite.Source
