import TaggedSuite.Source.Grammar.Expression

/-!
# The grammar of patterns

The patterns of a `case`. Nothing in a pattern is evaluated but its literals, so a pattern is kept
as an expression that holds them.
-/
namespace TaggedSuite.Source
open Rule

/-- The rules that patterns need: those for expressions, and the one for a pattern nested inside. -/
structure PatternNested where
  nested : Nested
  pattern : Rule Expr

/-- Reads a number, and says whether it is imaginary. -/
def patternNumber : Rule Bool := do
  match ← peek with
  | some ⟨.number isImaginary, _⟩ => skip; return isImaginary
  | _ => failure

/-- Reads a number with an optional sign. A real one may be followed by an imaginary one that is
added or subtracted. -/
def numberPattern : Rule Unit := do
  discard (acceptOperator "-")
  let isImaginary ← patternNumber
  if (← optional' (oneOf ["+", "-"])).isSome then
    let second ← patternNumber
    if isImaginary || !second then failure

/-- Reads a literal that can be compared with. -/
def patternLiteral (n : Nested) : Rule Expr := do
  match ← peek with
  | some ⟨.literal _, _⟩ => literals n
  | some ⟨.name w, line⟩ =>
    if w = "None" ∨ w = "True" ∨ w = "False" then skip; return .other line [] else failure
  | some ⟨_, line⟩ => numberPattern; return .other line []
  | none => failure

def literalPattern (n : Nested) : Rule Expr := do
  let start ← line
  return .other start [← patternLiteral n]

/-- Reads the name of a variable that a pattern binds. -/
def captureTarget : Rule Unit := do if ← isWord "_" then failure else discard name

/-- Reads names between dots; says how many. -/
def dottedNames : Rule Nat := do
  discard name
  let others ← many (do operator "."; name)
  return others.length + 1

/-- Reads a pattern that may be starred. -/
def starPattern (p : PatternNested) : Rule (Expr × Bool) := do
  let start ← line
  if ← acceptOperator "*" then
    discard name
    return (.other start [], true)
  else return (← p.pattern, false)

/-- Reads patterns between commas up to the closer, which is read. A single one without a comma is a
group, which no star can stand in. -/
def sequencePattern (p : PatternNested) (opener closer : String) : Rule Expr := do
  let start ← line
  operator opener
  if ← acceptOperator closer then return .other start []
  let (items, isSequence) ← itemList (starPattern p)
  operator closer
  match items, isSequence || opener == "[" with
  | [(e, isStar)], false => if isStar then failure else return e
  | items, _ => return .other start (items.map (·.1))

/-- Reads an entry of a mapping pattern: a key with its pattern. -/
def keyPattern (p : PatternNested) : Rule (Expr × Expr) := do
  let start ← line
  let key ←
    match ← optional' (patternLiteral p.nested) with
    | some key => pure key
    | none => if (← dottedNames) = 1 then failure else pure (.other start [])
  operator ":"
  return (key, ← p.pattern)

/-- Reads the name that what is left of a mapping is bound to. -/
def restPattern : Rule Unit := do
  operator "**"
  captureTarget

/-- Reads a mapping pattern. What is left of the mapping can be bound at the end. -/
def mappingPattern (p : PatternNested) : Rule Expr := do
  let start ← line
  operator "\x7b"
  if ← acceptOperator "\x7d" then return .other start []
  let entries ← if ← isOperator "**" then do
      restPattern
      pure []
    else do
      let entries ← commaSeparated (keyPattern p)
      discard (optional' (do operator ","; restPattern))
      pure entries
  discard (acceptOperator ",")
  operator "\x7d"
  return .other start (entries.map (·.1) ++ entries.map (·.2))

inductive ClassArgument where
  | positional
  | keyword
  /-- A keyword that is also the pattern for anything. -/
  | wildcardKeyword
  deriving DecidableEq

def classArgument (p : PatternNested) : Rule (Expr × ClassArgument) := do
  if ← isNameThen "=" then
    let isWildcard ← isWord "_"
    discard name
    operator "="
    return (← p.pattern, if isWildcard then .wildcardKeyword else .keyword)
  else return (← p.pattern, .positional)

/-- Whether no keyword stands before another argument, and the wildcard not right after one: there
it is read as a pattern. -/
def areOrdered : List ClassArgument → Bool
  | [] => true
  | .positional :: .wildcardKeyword :: _ => false
  | .positional :: rest => areOrdered rest
  | _ :: rest => rest.all (· != .positional)

/-- Reads a name that a pattern binds, a dotted name that it compares with or a class with the
patterns of its parts. -/
def namePattern (p : PatternNested) : Rule Expr := do
  let start ← line
  if ← acceptWord "_" then return .other start []
  discard dottedNames
  if ← acceptOperator "(" then
    if ← acceptOperator ")" then return .other start []
    let (arguments, _) ← itemList (classArgument p)
    if !areOrdered (arguments.map (·.2)) then failure
    operator ")"
    return .other start (arguments.map (·.1))
  else return .other start []

/-- Reads a pattern without alternatives. -/
def closedPattern (p : PatternNested) : Rule Expr := do
  match ← peek with
  | some ⟨.operator "(", _⟩ => sequencePattern p "(" ")"
  | some ⟨.operator "[", _⟩ => sequencePattern p "[" "]"
  | some ⟨.operator "\x7b", _⟩ => mappingPattern p
  | _ =>
    match ← optional' (literalPattern p.nested) with
    | some e => return e
    | none => namePattern p

/-- Reads alternatives, and the name that what they match is bound to. -/
def patternLevel (p : PatternNested) : Rule Expr := do
  let start ← line
  let first ← closedPattern p
  let others ← many (do operator "|"; closedPattern p)
  let e := if others.isEmpty then first else .other start (first :: others)
  if ← acceptWord "as" then
    captureTarget
    return .other start [e]
  else return e

/-- The rule for patterns that are nested at most that deep. -/
def patternRules (n : Nested) : Nat → Rule Expr
  | 0 => failure
  | k + 1 => patternLevel ⟨n, patternRules n k⟩

/-- Reads what stands behind `case`: a pattern, or several between commas. -/
def patterns (n : Nested) : Rule Expr := do
  let start ← line
  let rule := patternRules n (← get).length
  let (items, isSequence) ← itemList (starPattern ⟨n, rule⟩)
  match items, isSequence with
  | [(e, isStar)], false => if isStar then failure else return e
  | items, _ => return .other start (items.map (·.1))

end TaggedSuite.Source
