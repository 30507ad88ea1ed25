import TaggedSuite.Source.Number
import TaggedSuite.Source.Token
import TaggedSuite.Text.IdentifierTable

/-!
# Splitting a test module into tokens

A change of indentation between two statements becomes a token, and so does the end of a statement's
line. Inside brackets neither counts. Columns are counted twice, once with wide tabs and once with
narrow ones, so that an indentation which hangs on the width of a tab is refused.
-/
namespace TaggedSuite.Source

/-- The text with every line ended by one line feed, the last one included. -/
def unifyLines : List Char → List Char
  | [] => []
  | '\r' :: '\n' :: rest => '\n' :: unifyLines rest
  | '\r' :: rest => '\n' :: unifyLines rest
  | c :: rest => c :: unifyLines rest

/-- The text with a line feed at the end. -/
def endLastLine (cs : List Char) : List Char :=
  if cs.getLast? == some '\n' then cs else cs ++ ['\n']

/-- A column, counted with wide and with narrow tabs. -/
structure Column where
  wide : Nat
  narrow : Nat
  deriving DecidableEq, Repr

/-- The beginning of a line: its indentation, and what follows it. -/
structure LineStart where
  column : Column
  line : Nat
  rest : List Char

/-- Reads the indentation of a line. When the line goes on after a backslash, the column of the
first backslash that has one decides. -/
def lineStart (line : Nat) (column : Column) (fixed : Nat) : List Char → Option LineStart
  | ' ' :: rest => lineStart line ⟨column.wide + 1, column.narrow + 1⟩ fixed rest
  | '\t' :: rest => lineStart line ⟨(column.wide / 8 + 1) * 8, column.narrow + 1⟩ fixed rest
  | '\x0c' :: rest => lineStart line ⟨0, 0⟩ fixed rest
  | '\\' :: '\n' :: c :: rest =>
    lineStart (line + 1) column (if fixed = 0 then column.wide else fixed) (c :: rest)
  | '\\' :: _ => none
  | rest => some ⟨if fixed = 0 then column else ⟨fixed, fixed⟩, line, rest⟩

/-- The open indentations, innermost first. The outermost one is no column at all. -/
abbrev Indentation := List Column

/-- Closes the indentations that are deeper than the column; says how many. -/
def closeIndentation (column : Column) : Indentation → Nat × Indentation
  | [] => (0, [])
  | top :: outer =>
    if column.wide < top.wide then
      let (n, kept) := closeIndentation column outer
      (n + 1, kept)
    else (0, top :: outer)

/-- The innermost column. -/
def innermost (open' : Indentation) : Column := open'.headD ⟨0, 0⟩

/-- The tokens that a statement's column calls for, and the indentations that are open after it. -/
def indentTokens (line : Nat) (column : Column) (open' : Indentation) :
    Option (List Token × Indentation) :=
  let top := innermost open'
  if column.wide = top.wide then
    if column.narrow = top.narrow then some ([], open') else none
  else if top.wide < column.wide then
    if top.narrow < column.narrow ∧ open'.length < 99 then
      some ([⟨.indent, line⟩], column :: open')
    else none
  else
    let (n, kept) := closeIndentation column open'
    if innermost kept = column then some (List.replicate n ⟨.dedent, line⟩, kept) else none

/-- The prefixes of string literals, in lower case. -/
def literalMarks : List String := ["", "r", "b", "br", "rb", "u", "f", "fr", "rf"]

/-- Splits the characters of a literal from what follows its closing quotes. A backslash takes the
next character along. -/
def literalBody (quote : Char) (isLong : Bool) : List Char → Option (List Char × List Char)
  | [] => none
  | '\\' :: c :: rest => do
    let (body, after) ← literalBody quote isLong rest
    return ('\\' :: c :: body, after)
  | c :: rest =>
    if c = quote ∧ (!isLong ∨ [quote, quote].isPrefixOf rest) then
      some ([], if isLong then rest.drop 2 else rest)
    else if c = '\n' ∧ !isLong then none
    else do
      let (body, after) ← literalBody quote isLong rest
      return (c :: body, after)

/-- Reads a literal from its opening quote on. -/
def quotedLiteral (mark : String) (quote : Char) (rest : List Char) :
    Option (Literal × List Char) := do
  let (body, after) ←
    if [quote, quote].isPrefixOf rest then literalBody quote true (rest.drop 2)
    else if rest.head? == some quote then some ([], rest.tail)
    else literalBody quote false rest
  return (⟨mark.contains 'b', mark.contains 'r', mark.contains 'f', body⟩, after)

/-- Whether the characters make up an identifier. -/
def isIdentifier : List Char → Bool
  | [] => false
  | c :: rest => Text.isIdentifierStart c && rest.all Text.isIdentifierPart

/-- The first operator that the characters begin with. -/
def operator? (cs : List Char) : Option String := operators.find? fun o => o.toList.isPrefixOf cs

def closer? : String → Option String
  | "(" => some ")"
  | "[" => some "]"
  | "\x7b" => some "\x7d"
  | _ => none

def isCloser (o : String) : Bool := o == ")" || o == "]" || o == "\x7d"

/-- The closers that are awaited after an operator, innermost first; none if it closes no open
bracket. -/
def trackBrackets (o : String) (awaited : List String) : Option (List String) :=
  match closer? o with
  | some c => if awaited.length < 200 then some (c :: awaited) else none
  | none =>
    if isCloser o then
      match awaited with
      | c :: outer => if c == o then some outer else none
      | [] => none
    else some awaited

structure LexState where
  line : Nat
  open' : Indentation
  awaited : List String
  /-- A new line begins here. -/
  isLineStart : Bool

/-- One step: the tokens that it finds, the state after them and the characters after them. -/
abbrev LexStep := List Token × LexState × List Char

/-- Skips the rest of a line without a statement, from its comment or its end on. -/
def blankLine (st : LexState) (line : Nat) (cs : List Char) : LexStep :=
  ([], { st with line := line + 1, isLineStart := true }, (cs.dropWhile (· != '\n')).tail)

def lexLineStart (st : LexState) (cs : List Char) : Option LexStep := do
  let start ← lineStart st.line ⟨0, 0⟩ 0 cs
  if start.rest.head? == some '#' || start.rest.head? == some '\n' then
    return blankLine st start.line start.rest
  if !st.awaited.isEmpty then
    return ([], { st with line := start.line, isLineStart := false }, start.rest)
  let (tokens, open') ← indentTokens start.line start.column st.open'
  return (tokens, { st with line := start.line, isLineStart := false, open' }, start.rest)

def lexLiteral (st : LexState) (mark : String) (quote : Char) (rest : List Char) :
    Option LexStep := do
  let (l, after) ← quotedLiteral mark quote rest
  return ([⟨.literal l, st.line⟩], { st with line := st.line + l.body.count '\n' }, after)

/-- Reads a name, or a string literal whose prefix looks like one. -/
def lexName (st : LexState) (cs : List Char) : Option LexStep :=
  let word := cs.takeWhile isNameByte
  let after := cs.dropWhile isNameByte
  let mark := String.ofList (word.map Char.toLower)
  match after with
  | '"' :: rest =>
    if literalMarks.contains mark then lexLiteral st mark '"' rest else plainName word after
  | '\'' :: rest =>
    if literalMarks.contains mark then lexLiteral st mark '\'' rest else plainName word after
  | _ => plainName word after
where
  plainName (word after : List Char) : Option LexStep :=
    if isIdentifier word then some ([⟨.name (String.ofList word), st.line⟩], st, after) else none

def lexOperator (st : LexState) (cs : List Char) : Option LexStep := do
  let o ← operator? cs
  let awaited ← trackBrackets o st.awaited
  return ([⟨.operator o, st.line⟩], { st with awaited }, cs.drop o.length)

/-- Reads the next token inside a line. -/
def lexInside (st : LexState) (cs : List Char) : Option LexStep :=
  match cs with
  | [] => none
  | '\n' :: rest =>
    let tokens := if st.awaited.isEmpty then [⟨.lineEnd, st.line⟩] else []
    some (tokens, { st with line := st.line + 1, isLineStart := true }, rest)
  | '\\' :: rest =>
    match rest with
    | '\n' :: c :: after => some ([], { st with line := st.line + 1 }, c :: after)
    | _ => none
  | '#' :: rest => some ([], st, rest.dropWhile (· != '\n'))
  | '"' :: rest => lexLiteral st "" '"' rest
  | '\'' :: rest => lexLiteral st "" '\'' rest
  | c :: rest =>
    if c == ' ' || c == '\t' || c == '\x0c' then some ([], st, rest)
    else if isNameStartByte c then lexName st cs
    else if c.isDigit || (c == '.' && rest.head?.any Char.isDigit) then do
      let (imaginary, after) ← number cs
      return ([⟨.number imaginary, st.line⟩], st, after)
    else lexOperator st cs

/-- The tokens of the characters, given an upper bound for the number of steps. At the end every
open indentation is closed, and no bracket may be open. -/
def lexFrom : Nat → LexState → List Char → Option (List Token)
  | 0, _, _ => none
  | fuel + 1, st, cs =>
    if cs.isEmpty then
      if st.awaited.isEmpty then some (st.open'.map fun _ => ⟨.dedent, st.line⟩) else none
    else do
      let (tokens, st, rest) ← if st.isLineStart then lexLineStart st cs else lexInside st cs
      return tokens ++ (← lexFrom fuel st rest)

/-- The tokens of characters whose first line has the given number. Every step but the first of a
line reads a character. -/
def lex (line : Nat) (cs : List Char) : Option (List Token) :=
  let cs := endLastLine (unifyLines cs)
  lexFrom (2 * cs.length + 2) ⟨line, [], [], true⟩ cs

end TaggedSuite.Source
