import TaggedSuite.Source.Grammar.Pattern

/-!
# The grammar of statements

A body is a statement line of its own or an indented block, so the rules for bodies nested up to a
depth arise from the rule for those of a smaller depth.
-/
namespace TaggedSuite.Source
open Rule

/-! ### Statements in a line -/

/-- The operators that change a variable in place. -/
def augmentingOperators : List String :=
  ["+=", "-=", "*=", "@=", "/=", "%=", "&=", "|=", "^=", "<<=", ">>=", "**=", "//="]

/-- Reads a yield or expressions between commas. -/
def value (n : Nested) : Rule Expr := do
  if ← isWord "yield" then yieldExpression n else starExpressions n

/-- Reads what follows the first expression of an assignment: targets that are assigned the same,
with the value behind the last equals sign. -/
def assignedUpTo (n : Nested) : List Token → List Expr → Rule (List Expr × Expr)
  | [], _ => failure
  | _ :: bound, targets => do
    operator "="
    let e ← value n
    if ← isOperator "=" then
      if isStarTarget e then assignedUpTo n bound (targets ++ [e]) else failure
    else return (targets, e)

/-- Reads an assignment or an expression that stands as a statement. -/
def expressionStatement (n : Nested) : Rule Stmt := do
  let start ← line
  let first ← value n
  if ← isOperator "=" then
    if !isStarTarget first then failure
    let (targets, e) ← assignedUpTo n (← get) [first]
    return .assign start targets e
  else if ← acceptOperator ":" then
    if !isSingleTarget first then failure
    let annotation ← n.expression
    let assigned ← if ← acceptOperator "=" then some <$> value n else pure none
    return .annotated start first annotation assigned
  else
    match ← optional' (oneOf augmentingOperators) with
    | some _ => if isSingleTarget first then return .augmented start first (← value n) else failure
    | none => return .expression start first

/-- Reads names between dots as one name. -/
def dottedName : Rule String := do
  let first ← name
  let others ← many (do operator "."; name)
  return ".".intercalate (first :: others)

def importedName (imported : Rule String) : Rule ImportedName := do
  let n ← imported
  return ⟨n, ← if ← acceptWord "as" then some <$> name else pure none⟩

def importedNames : Rule (List ImportedName) := do
  if ← acceptOperator "*" then return [⟨"*", none⟩]
  else if ← acceptOperator "(" then
    let (names, _) ← itemList (importedName name)
    operator ")"
    return names
  else commaSeparated (importedName name)

def importStatement : Rule Stmt := do
  let start ← line
  if ← acceptWord "import" then return .imports start (← commaSeparated (importedName dottedName))
  else
    word "from"
    let dots ← many (oneOf [".", "..."])
    let module? ← optional' dottedName
    if dots.isEmpty && module?.isNone then failure
    word "import"
    return .importFrom start module? (← importedNames)

/-- Reads the statements that begin with a keyword and stand in a line. -/
def keywordStatement (n : Nested) (w : String) : Rule Stmt := do
  let start ← line
  skip
  match w with
  | "return" => return .simple start (← optional' (starExpressions n)).toList
  | "raise" =>
    match ← optional' n.expression with
    | none => return .simple start []
    | some e =>
      if ← acceptWord "from" then return .simple start [e, ← n.expression]
      else return .simple start [e]
  | "pass" | "break" | "continue" => return .simple start []
  | "del" =>
    let (targets, _) ← itemList n.expression
    if targets.all isDeletable then return .simple start targets else failure
  | "assert" => return .simple start (← commaSeparatedUpTo2 n)
  | "global" | "nonlocal" => discard (commaSeparated name); return .simple start []
  | _ => failure
where
  commaSeparatedUpTo2 (n : Nested) : Rule (List Expr) := do
    let first ← n.expression
    if ← acceptOperator "," then return [first, ← n.expression] else return [first]

/-- The keywords that statements in a line begin with. -/
def statementKeywords : List String :=
  ["return", "raise", "pass", "break", "continue", "del", "assert", "global", "nonlocal"]

def lineStatement (n : Nested) : Rule Stmt := do
  match ← peek with
  | some ⟨.name w, _⟩ =>
    if w = "import" ∨ w = "from" then importStatement
    else if statementKeywords.contains w then keywordStatement n w
    else expressionStatement n
  | _ => expressionStatement n

/-- Reads a line of statements between semicolons. -/
def statementLine (n : Nested) : Rule (List Stmt) := do
  let first ← lineStatement n
  let others ← many (do operator ";"; lineStatement n)
  discard (acceptOperator ";")
  expect .lineEnd
  return first :: others

/-! ### Statements with bodies -/

structure BodyRules where
  nested : Nested
  primary : Primary
  /-- Reads a body after its colon. -/
  body : Rule (List Stmt)

def colonBody (r : BodyRules) : Rule (List Stmt) := do operator ":"; r.body

/-- Reads an optional part that is a word and a body. -/
def wordBody? (r : BodyRules) (w : String) : Rule (Option Block) := do
  if ← acceptWord w then return some (.body (← colonBody r)) else return none

def classStatement (r : BodyRules) (decorators : List Expr) : Rule Stmt := do
  let start ← line
  word "class"
  let n ← name
  let a ← if ← acceptOperator "(" then do
      let a ← arguments r.nested
      operator ")"
      pure a
    else pure ⟨[], [], false, false⟩
  return .classDef start n a.args a.keywords (← colonBody r) decorators

/-- Reads a function from its `def` on. The function began on the line. -/
def functionStatement (r : BodyRules) (start : Nat) (decorators : List Expr) : Rule Stmt := do
  word "def"
  let n ← name
  operator "("
  let ps ← parameters r.nested true ")"
  operator ")"
  let returns ← if ← acceptOperator "->" then pure [← r.nested.expression] else pure []
  return .functionDef start n ps (← colonBody r) decorators returns

def decorators (n : Nested) : Rule (List Expr) := many do
  operator "@"
  let e ← namedExpression n
  expect .lineEnd
  return e

/-- Reads a condition, the ones that are tried after it and what is done otherwise. Each of them
belongs to the one before. -/
def ifStatement (r : BodyRules) : Rule Stmt := do
  let condition (w : String) : Rule (Nat × Expr × List Stmt) := do
    let start ← line
    word w
    let e ← namedExpression r.nested
    return (start, e, ← colonBody r)
  let first ← condition "if"
  let others ← many (condition "elif")
  let otherwise ← wordBody? r "else"
  let join (c : Nat × Expr × List Stmt) (orElse : Option Block) : Stmt :=
    .compound c.1 [c.2.1] (.body c.2.2 :: orElse.toList)
  return join first (others.foldr (fun c orElse => some (.body [join c orElse])) otherwise)

def whileStatement (r : BodyRules) : Rule Stmt := do
  let start ← line
  word "while"
  let e ← namedExpression r.nested
  let body ← colonBody r
  return .compound start [e] (.body body :: (← wordBody? r "else").toList)

/-- Reads a loop over items. -/
def forStatement (r : BodyRules) : Rule Stmt := do
  let start ← line
  word "for"
  let target ← starTargets r.primary
  word "in"
  let items ← starExpressions r.nested
  let body ← colonBody r
  return .compound start [target, items] (.body body :: (← wordBody? r "else").toList)

def withItem (r : BodyRules) : Rule Expr := do
  let start ← line
  let e ← r.nested.expression
  if ← acceptWord "as" then return .other start [e, ← starTarget r.primary]
  else return .other start [e]

/-- Reads the managers of a `with`, between parentheses if that makes sense of them. -/
def withItems (r : BodyRules) : Rule (List Expr) := do
  let inParentheses : Rule (List Expr) := do
    operator "("
    let (items, _) ← itemList (withItem r)
    operator ")"
    if ← isOperator ":" then return items else failure
  match ← optional' inParentheses with
  | some items => return items
  | none => commaSeparated (withItem r)

def withStatement (r : BodyRules) : Rule Stmt := do
  let start ← line
  word "with"
  let items ← withItems r
  return .compound start items [.body (← colonBody r)]

/-- Reads a handler, for groups or for single exceptions. Only the latter can do without saying what
they handle. -/
def handler (r : BodyRules) (isGroup : Bool) : Rule Block := do
  word "except"
  if isGroup then operator "*"
  let handled ← if !isGroup ∧ (← isOperator ":") then pure [] else do
    let e ← r.nested.expression
    if ← acceptWord "as" then discard name
    pure [e]
  return .clause handled (← colonBody r)

/-- Reads a `try`. It needs a handler or what is done at its end, and handlers of one kind. -/
def tryStatement (r : BodyRules) : Rule Stmt := do
  let start ← line
  word "try"
  let body ← colonBody r
  let single ← many (handler r false)
  let handlers ← if single.isEmpty then many (handler r true) else pure single
  let otherwise ← if handlers.isEmpty then pure none else wordBody? r "else"
  let last ← wordBody? r "finally"
  if handlers.isEmpty && last.isNone then failure
  return .compound start [] (.body body :: handlers ++ otherwise.toList ++ last.toList)

def matchSubject (n : Nested) : Rule Expr := do
  let (items, isTuple) ← itemList (starredOr n (namedExpression n))
  match items, isTuple with
  | [e], false => if isStarred e then failure else return e
  | items, _ => return .display (firstLine items) .tuple items

def caseBlock (r : BodyRules) : Rule Block := do
  word "case"
  let p ← patterns r.nested
  let guard ← if ← acceptWord "if" then pure [← namedExpression r.nested] else pure []
  return .clause (p :: guard) (← colonBody r)

def matchStatement (r : BodyRules) : Rule Stmt := do
  let start ← line
  word "match"
  let subject ← matchSubject r.nested
  operator ":"
  expect .lineEnd
  expect .indent
  let cases ← many1 (caseBlock r)
  expect .dedent
  return .compound start [subject] cases

/-- Reads a statement after `async`, which began on the line. -/
def asyncStatement (r : BodyRules) (decorators : List Expr) : Rule Stmt := do
  let start ← line
  word "async"
  if ← isWord "def" then functionStatement r start decorators
  else if !decorators.isEmpty then failure
  else if ← isWord "for" then forStatement r
  else withStatement r

/-- Reads a class or a function with the decorators in front of it. -/
def decoratedStatement (r : BodyRules) : Rule Stmt := do
  let ds ← decorators r.nested
  let start ← line
  if ← isWord "class" then classStatement r ds
  else if ← isWord "async" then asyncStatement r ds
  else functionStatement r start ds

/-- The rule for statements with bodies that begin with the word. The word `match` may also begin a
line of statements. -/
def compoundStatement? (r : BodyRules) : String → Option (Rule Stmt)
  | "if" => some (ifStatement r)
  | "class" | "def" => some (decoratedStatement r)
  | "with" => some (withStatement r)
  | "for" => some (forStatement r)
  | "try" => some (tryStatement r)
  | "while" => some (whileStatement r)
  | "async" => some (asyncStatement r [])
  | _ => none

/-- Reads a statement with bodies, or a line of statements. -/
def statements1 (r : BodyRules) : Rule (List Stmt) := do
  match ← peek with
  | some ⟨.operator "@", _⟩ => return [← decoratedStatement r]
  | some ⟨.name "match", _⟩ =>
    match ← optional' (matchStatement r) with
    | some s => return [s]
    | none => statementLine r.nested
  | some ⟨.name w, _⟩ =>
    match compoundStatement? r w with
    | some rule => return [← rule]
    | none => statementLine r.nested
  | _ => statementLine r.nested

def statements (r : BodyRules) : Rule (List Stmt) := do return (← many (statements1 r)).flatten

/-- Reads a body: a line of statements, or a block. -/
def bodyLevel (r : BodyRules) : Rule (List Stmt) := do
  if ← accept .lineEnd then
    expect .indent
    let ss ← many1 (statements1 r)
    expect .dedent
    return ss.flatten
  else statementLine r.nested

/-- The rule for bodies that are nested at most that deep. -/
def bodyRules (d : Depth) : Nat → Rule (List Stmt)
  | 0 => failure
  | k + 1 => bodyLevel ⟨d.nested, d.primary, bodyRules d k⟩

/-- How many levels of nesting a token can begin. A formatted literal hides at most as many tokens
as it has characters, and each of its fields is put between parentheses on a line of its own. -/
def levelsOf (t : Token) : Nat :=
  match t.kind with
  | .literal l => if l.isFormatted then 6 + 2 * l.body.length else 1
  | _ => 1

/-- How deep the expressions of the tokens can be nested. Each level begins with a token of its own.
-/
def depthBound (tokens : List Token) : Nat := tokens.foldl (fun n t => n + levelsOf t) 2

def moduleRule : Rule Module := do
  let size := (← get).length
  let d := depthRules (depthBound (← get))
  let ss ← statements ⟨d.nested, d.primary, bodyRules d size⟩
  if (← get).isEmpty then return ss else failure

/-- The module that a text says; none if the text is no module. -/
def Module.read (text : String) : Option Module := do
  let tokens ← lex 1 text.toList
  let (m, _) ← moduleRule tokens
  return m

end TaggedSuite.Source
