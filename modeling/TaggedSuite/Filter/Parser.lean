import TaggedSuite.Filter.Expr
import TaggedSuite.Filter.Token

/-!
# Reading a filter text

A filter is a list of terms between separators; a term is a list of factors between plus signs; a
factor is a tag, a parenthesized filter, or a factor after a minus sign. Terms are alternatives,
except that a term which is one negated factor is an exclusion: all exclusions are joined to the
alternatives as conditions. A fault is reported with the position of the token that shows it.
-/
namespace TaggedSuite.Filter

/-- What is wrong with a filter text. -/
inductive Detail where
  | dangling (operator : Char)
  | emptyGroup
  | unbalancedOpening
  | unbalancedClosing
  | invalidTag (text : String)
  | unexpected (text : String)
  | unexpectedEnd
  deriving DecidableEq, Repr

def Detail.message : Detail → String
  | dangling operator => s!"dangling '{operator}'"
  | emptyGroup => "empty group '()'"
  | unbalancedOpening => "unbalanced '('"
  | unbalancedClosing => "unbalanced ')'"
  | invalidTag text => s!"empty or invalid tag {Text.quoted text}"
  | unexpected text => s!"unexpected {Text.quoted text}"
  | unexpectedEnd => "unexpected end of expression"

/-- A fault at a position of the text. -/
structure Fault where
  detail : Detail
  position : Nat
  deriving DecidableEq, Repr

/-- A term, and whether it is one negated factor. -/
structure Term where
  filter : Filter
  exclusion : Bool
  deriving DecidableEq, Repr

/-- Joins the first filter and the others by conjunction, from the left. -/
def conj (first : Filter) (others : List Filter) : Filter := others.foldl and first

/-- Joins the first filter and the others by disjunction, from the left. -/
def disj (first : Filter) (others : List Filter) : Filter := others.foldl or first

/-- The filter of a list of terms: the alternatives, then every exclusion as a condition. Without an
alternative the first exclusion takes its place. -/
def combine (terms : List Term) : Filter :=
  let exclusions := (terms.filter (·.exclusion)).map (·.filter)
  match (terms.filter (!·.exclusion)).map (·.filter) with
  | first :: others => conj (disj first others) exclusions
  | [] => match exclusions with
    | first :: others => conj first others
    | [] => all

def nextKind (ts : List Token) : Option TokenKind := ts.head?.map (·.kind)

/-- Whether no factor can begin with the next token because the term ends before it. -/
def endsTerm : Option TokenKind → Bool
  | none | some .gap | some .comma | some .plus | some .closing => true
  | _ => false

/-- Whether a comma with this token after it separates nothing. -/
def endsList : Option TokenKind → Bool
  | none | some .comma | some .closing => true
  | _ => false

/-- The fault of a token that cannot begin a factor. -/
def Token.misplaced (t : Token) : Fault :=
  match t.kind with
  | .closing => ⟨.unbalancedClosing, t.position⟩
  | .plus => ⟨.dangling '+', t.position⟩
  | .comma => ⟨.dangling ',', t.position⟩
  | _ => ⟨.unexpected (String.ofList t.text), t.position⟩

mutual

/-- Reads one factor from the front of the tokens. The text has `size` characters. -/
def factor (size : Nat) : Nat → List Token → Except Fault (Filter × List Token)
  | 0, _ => .error ⟨.unexpectedEnd, size⟩
  | _ + 1, [] => .error ⟨.unexpectedEnd, size⟩
  | fuel + 1, t :: rest =>
    match t.kind with
    | .minus => do
      if endsTerm (nextKind rest) then throw ⟨.dangling '-', t.position⟩
      let (operand, rest) ← factor size fuel rest
      return (.not operand, rest)
    | .opening => do
      if nextKind rest = some .closing then throw ⟨.emptyGroup, t.position⟩
      let (inner, rest) ← filter size fuel rest
      match rest with
      | u :: rest =>
        if u.kind = .closing then return (inner, rest)
        else throw ⟨.unbalancedOpening, t.position⟩
      | [] => throw ⟨.unbalancedOpening, t.position⟩
    | .tag =>
      match Tag.parse (String.ofList t.text) with
      | .ok t => .ok (.tag t, rest)
      | .error _ => .error ⟨.invalidTag (String.ofList t.text), t.position⟩
    | _ => .error t.misplaced

/-- Reads the factors after the first one of a term. -/
def moreFactors (size : Nat) : Nat → List Token → Except Fault (List Filter × List Token)
  | 0, _ => .error ⟨.unexpectedEnd, size⟩
  | _ + 1, [] => .ok ([], [])
  | fuel + 1, t :: rest => do
    if t.kind ≠ .plus then return ([], t :: rest)
    if endsTerm (nextKind rest) then throw ⟨.dangling '+', t.position⟩
    let (first, rest) ← factor size fuel rest
    let (others, rest) ← moreFactors size fuel rest
    return (first :: others, rest)

def term (size : Nat) : Nat → List Token → Except Fault (Term × List Token)
  | 0, _ => .error ⟨.unexpectedEnd, size⟩
  | fuel + 1, ts => do
    let (first, rest) ← factor size fuel ts
    let (others, rest) ← moreFactors size fuel rest
    return (⟨conj first others, nextKind ts = some .minus ∧ others.isEmpty⟩, rest)

/-- Reads the terms after the first one. -/
def moreTerms (size : Nat) : Nat → List Token → Except Fault (List Term × List Token)
  | 0, _ => .error ⟨.unexpectedEnd, size⟩
  | _ + 1, [] => .ok ([], [])
  | fuel + 1, t :: rest => do
    if t.kind ≠ .gap ∧ t.kind ≠ .comma then return ([], t :: rest)
    if t.kind = .comma ∧ endsList (nextKind rest) then throw ⟨.dangling ',', t.position⟩
    let (first, rest) ← term size fuel rest
    let (others, rest) ← moreTerms size fuel rest
    return (first :: others, rest)

/-- Reads terms as far as they go. -/
def filter (size : Nat) : Nat → List Token → Except Fault (Filter × List Token)
  | 0, _ => .error ⟨.unexpectedEnd, size⟩
  | fuel + 1, ts => do
    let (first, rest) ← term size fuel ts
    let (others, rest) ← moreTerms size fuel rest
    return (combine (first :: others), rest)

end

/-- Reads a whole list of tokens. Between two tokens there are at most three steps that read none.
-/
def ofTokens (size : Nat) (ts : List Token) : Except Fault Filter := do
  let (f, rest) ← filter size (4 * ts.length + 4) ts
  match rest with
  | [] => return f
  | t :: _ =>
    if t.kind = .closing then throw ⟨.unbalancedClosing, t.position⟩
    else throw ⟨.unexpected (String.ofList t.text), t.position⟩

/-- Reads a filter text. A text of whitespace alone selects every test. -/
def parse (raw : String) : Except Fault Filter :=
  let cs := raw.toList
  if cs.all Text.isBlank then .ok .all else ofTokens cs.length (tokens cs)

def Fault.message (raw : String) (fault : Fault) : String :=
  s!"Invalid tag filter {Text.quoted raw}: {fault.detail.message} (at position {fault.position})"

end TaggedSuite.Filter
