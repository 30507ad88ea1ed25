import TaggedSuite.Source.Grammar.Basic
import TaggedSuite.Source.Lexer
import TaggedSuite.Source.Literal

/-!
# The grammar of expressions

Each rule is given the rules for what is nested inside it, so no rule refers to itself. The rules
for expressions nested up to a depth arise from those for a smaller depth.
-/
namespace TaggedSuite.Source
open Rule

/-- The rules that others refer to for what is nested inside. -/
structure Nested where
  /-- A condition, a lambda or any simpler expression. -/
  expression : Rule Expr
  /-- An operand with its signs and powers. -/
  factor : Rule Expr

def firstLine (es : List Expr) : Nat := (es.head?.map Expr.line).getD 0

/-- Reads an assignment inside an expression, or an expression. -/
def namedExpression (n : Nested) : Rule Expr := do
  let start ← line
  if ← isNameThen ":=" then
    let target ← name
    operator ":="
    return .other start [.name start target, ← n.expression]
  else n.expression

/-- The operators that join two operands from the left, those that bind least first. -/
def joiningOperators : List (List String) :=
  [["|"], ["^"], ["&"], ["<<", ">>"], ["+", "-"], ["*", "/", "//", "%", "@"]]

/-- Reads operands joined from the left by the operators. -/
def joined (operand : Rule Expr) (operators : List String) : Rule Expr := do
  let start ← line
  let first ← operand
  let others ← many (do discard (oneOf operators); operand)
  return others.foldl (fun left right => .other start [left, right]) first

/-- Reads an operand of a comparison: everything that binds closer. -/
def arithmetic (n : Nested) : Rule Expr :=
  joiningOperators.foldr (fun ops rule => joined rule ops) n.factor

def comparisonOperator : Rule Unit := do
  if ← acceptWord "not" then word "in"
  else if ← acceptWord "in" then return
  else if ← acceptWord "is" then discard (acceptWord "not")
  else discard (oneOf ["==", "!=", "<=", "<", ">=", ">"])

/-- Reads operands between comparison operators. -/
def comparison (n : Nested) : Rule Expr := do
  let start ← line
  let first ← arithmetic n
  let others ← many (do comparisonOperator; arithmetic n)
  return if others.isEmpty then first else .other start (first :: others)

/-- Reads a comparison with negations in front, at most one for each of the given tokens. -/
def negated (n : Nested) : List Token → Rule Expr
  | [] => comparison n
  | _ :: bound => do
    let start ← line
    if ← acceptWord "not" then return .other start [← negated n bound]
    else comparison n

/-- Reads operands between the word; a single one stands for itself. -/
def between (operand : Rule Expr) (w : String) : Rule Expr := do
  let start ← line
  let first ← operand
  let others ← many (do word w; operand)
  return if others.isEmpty then first else .other start (first :: others)

/-- Reads what may stand as a condition: everything but a condition itself and a lambda. -/
def disjunction (n : Nested) : Rule Expr := do
  let tokens ← get
  between (between (negated n tokens) "and") "or"

/-- Reads a starred operand, or what the rule reads. -/
def starredOr (n : Nested) (rule : Rule Expr) : Rule Expr := do
  let start ← line
  if ← acceptOperator "*" then return .starred start (← arithmetic n)
  else rule

def isStarred : Expr → Bool
  | .starred .. => true
  | _ => false

/-- Reads items between commas, with an optional comma at the end; says whether there was a comma.
-/
def itemList {α : Type} (item : Rule α) : Rule (List α × Bool) := do
  let items ← commaSeparated item
  let trailing ← acceptOperator ","
  return (items, trailing || 1 < items.length)

/-- Reads expressions between commas. Several make a tuple, and so does one with a comma. -/
def starExpressions (n : Nested) : Rule Expr := do
  let (items, isTuple) ← itemList (starredOr n n.expression)
  match items, isTuple with
  | [e], false => return e
  | items, _ => return .display (firstLine items) .tuple items

/-- Whether something can be assigned to the expression. A starred item may stand in a display. -/
def isTarget : Expr → Bool
  | .name .. | .attribute .. | .subscript .. => true
  | .display _ kind items => kind != .set && go items
  | _ => false
where
  go : List Expr → Bool
    | [] => true
    | .starred _ value :: rest => isTarget value && go rest
    | e :: rest => isTarget e && go rest

/-- Whether something can be assigned to the expression or to what is starred in it. -/
def isStarTarget : Expr → Bool
  | .starred _ value => isTarget value
  | e => isTarget e

/-- Whether something can be assigned to the expression alone. -/
def isSingleTarget : Expr → Bool
  | .name .. | .attribute .. | .subscript .. => true
  | _ => false

def isDeletable : Expr → Bool
  | .name .. | .attribute .. | .subscript .. => true
  | .display _ kind items => kind != .set && go items
  | _ => false
where
  go : List Expr → Bool
    | [] => true
    | e :: rest => isDeletable e && go rest

def yieldExpression (n : Nested) : Rule Expr := do
  let start ← line
  word "yield"
  if ← acceptWord "from" then return .other start [← n.expression]
  else return .other start (← optional' (starExpressions n)).toList

/-! ### Parameters -/

/-- Where a list of parameters stands. -/
inductive ParameterPhase where
  | positional
  | afterSlash
  | keywordOnly
  | done
  deriving DecidableEq

structure Parameters where
  phase : ParameterPhase
  positional : List Expr
  star : List Expr
  keywordOnly : List Expr
  keywordDefaults : List Expr
  doubleStar : List Expr
  defaults : List Expr
  /-- A star without a name waits for a parameter. -/
  isBare : Bool

def Parameters.none : Parameters := ⟨.positional, [], [], [], [], [], [], false⟩

/-- Reads a name with an annotation where annotations are allowed. -/
def parameterName (n : Nested) (annotated starAllowed : Bool) : Rule Expr := do
  let start ← line
  discard name
  if annotated then
    if ← acceptOperator ":" then
      return .other start [← if starAllowed then starredOr n n.expression else n.expression]
  return .other start []

/-- Reads one parameter, or one of the marks between them. -/
def parameter (n : Nested) (annotated : Bool) (p : Parameters) : Rule Parameters := do
  if p.phase = .done then failure
  else if ← acceptOperator "/" then
    if p.phase = .positional ∧ !p.positional.isEmpty then return { p with phase := .afterSlash }
    else failure
  else if ← acceptOperator "**" then
    if p.isBare then failure
    let e ← parameterName n annotated false
    return { p with phase := .done, doubleStar := [e] }
  else if ← acceptOperator "*" then
    if p.phase = .keywordOnly then failure
    if ← isOperator "," then return { p with phase := .keywordOnly, isBare := true }
    let e ← parameterName n annotated true
    return { p with phase := .keywordOnly, star := [e] }
  else
    let e ← parameterName n annotated false
    let value ← if ← acceptOperator "=" then some <$> n.expression else pure Option.none
    if p.phase = .keywordOnly then
      return { p with
        keywordOnly := p.keywordOnly ++ [e]
        keywordDefaults := p.keywordDefaults ++ value.toList
        isBare := false }
    else if value.isNone && !p.defaults.isEmpty then failure
    else return { p with positional := p.positional ++ [e], defaults := p.defaults ++ value.toList }

/-- Reads parameters up to the closer, which stays, at most one for each of the given tokens. -/
def parametersUpTo (n : Nested) (annotated : Bool) (closer : String) :
    List Token → Parameters → Rule Parameters
  | [], _ => failure
  | _ :: bound, p => do
    if ← isOperator closer then return p
    let p ← parameter n annotated p
    if ← acceptOperator "," then parametersUpTo n annotated closer bound p
    else if ← isOperator closer then return p
    else failure

/-- Reads a list of parameters up to the closer, which stays. -/
def parameters (n : Nested) (annotated : Bool) (closer : String) : Rule Expr := do
  let start ← line
  let p ← parametersUpTo n annotated closer (← get) .none
  if p.isBare then failure
  return .other start (p.positional ++ p.star ++ p.keywordOnly ++ p.keywordDefaults ++
    p.doubleStar ++ p.defaults)

def lambda (n : Nested) : Rule Expr := do
  let start ← line
  word "lambda"
  let ps ← parameters n false ":"
  operator ":"
  return .other start [ps, ← n.expression]

/-! ### Calls and subscripts -/

/-- Reads one part of a subscript: a slice or an expression. The bounds of a slice assign nothing.
-/
def slice (n : Nested) : Rule Expr := do
  let start ← line
  if ← isNameThen ":=" then namedExpression n
  else
    let first ← optional' n.expression
    if ← acceptOperator ":" then
      let second ← optional' n.expression
      let third ← if ← acceptOperator ":" then optional' n.expression else pure none
      return .other start (first.toList ++ second.toList ++ third.toList)
    else match first with
      | some e => return e
      | none => failure

def subscriptIndex (n : Nested) : Rule Expr := do
  let item : Rule Expr := do
    let start ← line
    if ← acceptOperator "*" then return .starred start (← n.expression)
    else slice n
  let (items, isTuple) ← itemList item
  match items, isTuple with
  | [e], false => return if isStarred e then .display e.line .tuple [e] else e
  | items, _ => return .display (firstLine items) .tuple items

/-- The arguments of a call, and whether a keyword or a double star came before. -/
structure Arguments where
  args : List Expr
  keywords : List Expr
  hasKeyword : Bool
  hasDoubleStar : Bool

def argument (n : Nested) (a : Arguments) : Rule Arguments := do
  let start ← line
  if ← acceptOperator "**" then
    let e ← n.expression
    return { a with
      keywords := a.keywords ++ [.keyword start none e], hasKeyword := true, hasDoubleStar := true }
  else if ← acceptOperator "*" then
    if a.hasDoubleStar then failure
    let e ← n.expression
    return { a with args := a.args ++ [.starred start e] }
  else if ← isNameThen "=" then
    let arg ← name
    operator "="
    let e ← n.expression
    return { a with keywords := a.keywords ++ [.keyword start (some arg) e], hasKeyword := true }
  else
    if a.hasKeyword then failure
    let e ← namedExpression n
    return { a with args := a.args ++ [e] }

/-- Reads arguments between commas, at most one for each of the given tokens. It ends before a
closing parenthesis, or after an argument that no comma follows. -/
def argumentsUpTo (n : Nested) : List Token → Arguments → Rule Arguments
  | [], _ => failure
  | _ :: bound, a => do
    if ← isOperator ")" then return a
    let a ← argument n a
    if ← acceptOperator "," then argumentsUpTo n bound a else return a

def arguments (n : Nested) : Rule Arguments := do
  argumentsUpTo n (← get) ⟨[], [], false, false⟩

/-! ### Atoms -/

/-- Reads what a formatted literal's field holds. -/
def fieldExpression (n : Nested) (line : Nat) (source : List Char) : Option Expr := do
  let tokens ← lex line ('(' :: source ++ [')'])
  let (e, rest) ← n.expression tokens
  match rest with
  | [⟨.lineEnd, _⟩] => some e
  | _ => none

mutual

/-- The expression of a field with those of its format. -/
def fieldTree (n : Nested) (line : Nat) : Field → Option Expr
  | .mk source offset format => do
    let e ← fieldExpression n (line + offset) source
    let inner ← fieldTrees n line format
    return .other line (e :: if inner.isEmpty then [] else [.other line inner])

def fieldTrees (n : Nested) (line : Nat) : List Field → Option (List Expr)
  | [] => some []
  | f :: rest => do
    let e ← fieldTree n line f
    return e :: (← fieldTrees n line rest)

end

def literal : Rule (Nat × Literal) := do
  match ← peek with
  | some ⟨.literal l, line⟩ => skip; return (line, l)
  | _ => failure

/-- The fields of one of several literals that stand side by side. -/
def literalFields (n : Nested) (line : Nat) (l : Literal) : Option (List Expr) :=
  if l.isFormatted then do fieldTrees n line (← fields? l.isRaw l.body)
  else some []

/-- The characters of one of several literals that stand side by side; those of a formatted literal
do not matter. -/
def literalChars (l : Literal) : Option (List Char) :=
  if l.isFormatted then some []
  else if l.isBytes && l.body.any (fun c => 128 ≤ c.toNat) then none
  else decodeBody l.isBytes l.isRaw l.body

/-- Reads the string literals that stand side by side; together they are one constant, unless one of
them is formatted. Bytes and texts do not mix. -/
def literals (n : Nested) : Rule Expr := do
  let start ← line
  let ls ← many1 literal
  if ls.any (·.2.isBytes) && !ls.all (·.2.isBytes) then failure
  let chars ← liftM (ls.mapM fun l => literalChars l.2)
  let fields ← liftM (ls.mapM fun l => literalFields n l.1 l.2)
  if ls.any (·.2.isFormatted) then return .other start fields.flatten
  else if ls.any (·.2.isBytes) then return .other start []
  else return .text start (String.ofList chars.flatten)

/-- The rules for atoms and what follows them need each other through comprehensions: the target of
a loop is an atom with what follows it. -/
structure Primary where
  /-- Reads an atom with attributes, calls and subscripts. -/
  primary : Rule Expr

def starTarget (p : Primary) : Rule Expr := do
  let start ← line
  let isStar ← acceptOperator "*"
  let e ← p.primary
  if !isTarget e then failure
  return if isStar then .starred start e else e

def starTargets (p : Primary) : Rule Expr := do
  let (items, isTuple) ← itemList (starTarget p)
  match items, isTuple with
  | [e], false => return e
  | items, _ => return .display (firstLine items) .tuple items

/-- Whether a loop of a comprehension is next. -/
def isComprehension : Rule Bool := do
  if ← isWord "for" then return true
  match ← get with
  | ⟨.name "async", _⟩ :: ⟨.name "for", _⟩ :: _ => return true
  | _ => return false

def comprehensionLoop (n : Nested) (p : Primary) : Rule Expr := do
  let start ← line
  discard (acceptWord "async")
  word "for"
  let target ← starTargets p
  word "in"
  let iterated ← disjunction n
  let conditions ← many (do word "if"; disjunction n)
  return .other start (target :: iterated :: conditions)

def comprehensionLoops (n : Nested) (p : Primary) : Rule (List Expr) :=
  many1 (comprehensionLoop n p)

/-- Reads the items of a display after its first one, up to the closer, which is read. Says whether
there was a comma. -/
def restOfDisplay (n : Nested) (closer : String) : Rule (List Expr × Bool) := do
  if ← acceptOperator closer then return ([], false)
  operator ","
  if ← acceptOperator closer then return ([], true)
  let (items, _) ← itemList (starredOr n (namedExpression n))
  operator closer
  return (items, true)

/-- Reads a group, a tuple or a generator. -/
def parenthesized (n : Nested) (p : Primary) : Rule Expr := do
  let start ← line
  operator "("
  if ← acceptOperator ")" then return .display start .tuple []
  if ← isWord "yield" then
    let e ← yieldExpression n
    operator ")"
    return e
  let first ← starredOr n (namedExpression n)
  if (← isComprehension) && !isStarred first then
    let loops ← comprehensionLoops n p
    operator ")"
    return .other start (first :: loops)
  let (others, isTuple) ← restOfDisplay n ")"
  if isTuple then return .display start .tuple (first :: others)
  else if isStarred first then failure
  else return first

/-- Reads a list or a list comprehension. -/
def bracketed (n : Nested) (p : Primary) : Rule Expr := do
  let start ← line
  operator "["
  if ← acceptOperator "]" then return .display start .list []
  let first ← starredOr n (namedExpression n)
  if (← isComprehension) && !isStarred first then
    let loops ← comprehensionLoops n p
    operator "]"
    return .other start (first :: loops)
  let (others, _) ← restOfDisplay n "]"
  return .display start .list (first :: others)

/-- Reads an entry of a mapping display: a key with its value, or an unpacked mapping. -/
def mappingEntry (n : Nested) : Rule (List Expr × Expr) := do
  if ← acceptOperator "**" then return ([], ← arithmetic n)
  let key ← n.expression
  operator ":"
  return ([key], ← n.expression)

/-- Reads the entries of a mapping display after the first one, with the closing brace. -/
def restOfMapping (n : Nested) (start : Nat) (first : List Expr × Expr) : Rule Expr := do
  let others ← many (do operator ","; mappingEntry n)
  discard (acceptOperator ",")
  operator "\x7d"
  let entries := first :: others
  return .other start ((entries.map (·.1)).flatten ++ entries.map (·.2))

/-- Reads a set or a set comprehension after its first item. -/
def restOfSet (n : Nested) (p : Primary) (start : Nat) (first : Expr) : Rule Expr := do
  if (← isComprehension) && !isStarred first then
    let loops ← comprehensionLoops n p
    operator "\x7d"
    return .other start (first :: loops)
  let (others, _) ← restOfDisplay n "\x7d"
  return .display start .set (first :: others)

/-- Reads a mapping, a set or a comprehension of one. -/
def braced (n : Nested) (p : Primary) : Rule Expr := do
  let start ← line
  operator "\x7b"
  if ← acceptOperator "\x7d" then return .other start []
  if ← isOperator "**" then restOfMapping n start (← mappingEntry n)
  else
    let isSet := (← isOperator "*") || (← isNameThen ":=")
    let first ← starredOr n (namedExpression n)
    if isSet then restOfSet n p start first
    else if ← acceptOperator ":" then
      let value ← n.expression
      if ← isComprehension then
        let loops ← comprehensionLoops n p
        operator "\x7d"
        return .other start (first :: value :: loops)
      else restOfMapping n start ([first], value)
    else restOfSet n p start first

def atom (n : Nested) (p : Primary) : Rule Expr := do
  match ← peek with
  | some ⟨.name w, line⟩ =>
    if w = "None" ∨ w = "True" ∨ w = "False" then skip; return .other line []
    else return .name line (← name)
  | some ⟨.number _, line⟩ => skip; return .other line []
  | some ⟨.literal _, _⟩ => literals n
  | some ⟨.operator "...", line⟩ => skip; return .other line []
  | some ⟨.operator "(", _⟩ => parenthesized n p
  | some ⟨.operator "[", _⟩ => bracketed n p
  | some ⟨.operator "\x7b", _⟩ => braced n p
  | _ => failure

/-- The argument, if it is the only one and stands for itself. -/
def Arguments.single? (a : Arguments) : Option Expr :=
  match a.args, a.keywords with
  | [e], [] => if isStarred e then none else some e
  | _, _ => none

/-- Reads the arguments of a call between its parentheses. A generator may stand alone without
parentheses of its own. -/
def callArguments (n : Nested) (p : Primary) : Rule Arguments := do
  let start ← line
  operator "("
  let a ← arguments n
  if ← acceptOperator ")" then return a
  let first ← liftM a.single?
  let loops ← comprehensionLoops n p
  operator ")"
  return ⟨[.other start (first :: loops)], [], false, false⟩

/-- Reads an attribute, a call or a subscript of an expression that began on the line. -/
def trailer (n : Nested) (p : Primary) (start : Nat) (e : Expr) : Rule Expr := do
  if ← acceptOperator "." then return .attribute start e (← name)
  else if ← isOperator "(" then
    let a ← callArguments n p
    return .call start e a.args a.keywords
  else
    operator "["
    let index ← subscriptIndex n
    operator "]"
    return .subscript start e index

/-- Reads attributes, calls and subscripts, at most one for each of the given tokens. -/
def trailers (n : Nested) (p : Primary) (start : Nat) : List Token → Expr → Rule Expr
  | [], e => return e
  | _ :: bound, e => do
    match ← optional' (trailer n p start e) with
    | some e => trailers n p start bound e
    | none => return e

/-- The rule for atoms with what follows them, where nothing is nested deeper than the given rule
allows. -/
def primaryLevel (n : Nested) (p : Primary) : Rule Expr := do
  let start ← line
  let e ← atom n p
  trailers n p start (← get) e

/-- Reads an operand with an await in front and a power behind. -/
def power (n : Nested) (p : Primary) : Rule Expr := do
  let start ← line
  let base ← if ← acceptWord "await" then do
      let awaited ← primaryLevel n p
      pure (.other start [awaited])
    else primaryLevel n p
  if ← acceptOperator "**" then return .other start [base, ← n.factor]
  else return base

/-- Reads an operand with its signs. -/
def factorLevel (n : Nested) (p : Primary) : Rule Expr := do
  let start ← line
  match ← optional' (oneOf ["+", "-", "~"]) with
  | some _ => return .other start [← n.factor]
  | none => power n p

def expressionLevel (n : Nested) : Rule Expr := do
  if ← isWord "lambda" then lambda n
  else
    let start ← line
    let body ← disjunction n
    if ← acceptWord "if" then
      let condition ← disjunction n
      word "else"
      let otherwise ← n.expression
      return .other start [condition, body, otherwise]
    else return body

/-- The rules for expressions nested up to a depth. -/
structure Depth where
  nested : Nested
  primary : Primary

/-- The rules for expressions that are nested at most that deep. -/
def depthRules : Nat → Depth
  | 0 => ⟨⟨failure, failure⟩, ⟨failure⟩⟩
  | k + 1 =>
    let inner := depthRules k
    let factor := factorLevel inner.nested inner.primary
    ⟨⟨expressionLevel ⟨inner.nested.expression, factor⟩, factor⟩,
      ⟨primaryLevel inner.nested inner.primary⟩⟩

end TaggedSuite.Source
