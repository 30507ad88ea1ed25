import TaggedSuite.Text.Halves
import TaggedSuite.Yaml.Cursor
import TaggedSuite.Yaml.Fault

/-!
# Scalars of a YAML text

A scalar is written between quotes, as a block of lines, or plainly. Each way folds lines by rules
of its own.
-/
namespace TaggedSuite.Yaml
open Cursor

/-! ### Between quotes -/

/-- The characters of the escapes that consist of one character. -/
def simpleEscape? : Char → Option Char
  | '0' => some '\x00'
  | 'a' => some '\x07'
  | 'b' => some '\x08'
  | 't' | '\t' => some '\t'
  | 'n' => some '\n'
  | 'v' => some '\x0b'
  | 'f' => some '\x0c'
  | 'r' => some '\r'
  | 'e' => some '\x1b'
  | ' ' => some ' '
  | '"' => some '"'
  | '\\' => some '\\'
  | '/' => some '/'
  | 'N' => some '\x85'
  | '_' => some '\xa0'
  | 'L' => some '\u2028'
  | 'P' => some '\u2029'
  | _ => none

/-- The number of digits that a coded escape has. -/
def escapeWidth? : Char → Option Nat
  | 'x' => some 2
  | 'u' => some 4
  | 'U' => some 8
  | _ => none

/-- The empty lines inside of quotes, each with its indentation. The number bounds them. -/
def quotedBreaks : Nat → Cursor → Except Fault (List Char × Cursor)
  | 0, c => .ok ([], c)
  | n + 1, c =>
    if c.isDocumentMark then .error .malformed
    else
      let c := c.skipWhile isGap
      match c.lineBreak? with
      | some (b, c) => do
        let (more, c) ← quotedBreaks n c
        return (b :: more, c)
      | none => .ok ([], c)

/-- Reads a coded escape from its letter on. -/
def codeEscape? (c : Cursor) : Option (Nat × Cursor) := do
  let width ← escapeWidth? (← c.peek)
  let digits := c.next.rest.take width
  if digits.length = width ∧ digits.all isHexDigit then
    return (hexNumber digits, c.next.skip width)
  else none

/-- The character with a code, and where to go on. Another escape behind it may write the second
half of the code. -/
def coded (code : Nat) (c : Cursor) : Except Fault (List Char × Cursor) :=
  if 0x7FFFFFFF < code then .error (.conversion .codeTooLarge)
  else if 0x10FFFF < code then .error (.conversion .noCharacter)
  else match Text.isFirstHalf code && c.isAt '\\', codeEscape? c.next with
    | true, some (second, after) =>
      if Text.isSecondHalf second then .ok ([Text.joinHalves code second], after)
      else .ok ([Text.characterOf code], c)
    | _, _ => .ok ([Text.characterOf code], c)

/-- Reads an escape behind its backslash. A line end that is escaped is not part of the text. -/
def escape (c : Cursor) : Except Fault (List Char × Cursor) :=
  match c.peek.bind simpleEscape?, codeEscape? c, c.lineBreak? with
  | some e, _, _ => .ok ([e], c.next)
  | none, some (code, c), _ => coded code c
  | none, none, some (_, c) => quotedBreaks c.bound c
  | none, none, none => .error .malformed

/-- Whether the character has a meaning inside of quotes. -/
def isQuotedSpecial (x : Char) : Bool := x == '\'' || x == '"' || x == '\\' || isGap x || isBreak x

/-- Reads characters up to a gap or the closing quote. The number bounds the pieces. -/
def quotedWord (isDouble : Bool) : Nat → Cursor → Except Fault (List Char × Cursor)
  | 0, c => .ok ([], c)
  | n + 1, c => do
    let (chars, c) := c.span (!isQuotedSpecial ·)
    let goOn (piece : List Char) (c : Cursor) : Except Fault (List Char × Cursor) := do
      let (more, c) ← quotedWord isDouble n c
      return (chars ++ piece ++ more, c)
    match c.rest with
    | '\'' :: '\'' :: _ => if isDouble then goOn ['\''] c.next else goOn ['\''] (c.skip 2)
    | '\'' :: _ => if isDouble then goOn ['\''] c.next else .ok (chars, c)
    | '"' :: _ => if isDouble then .ok (chars, c) else goOn ['"'] c.next
    | '\\' :: _ =>
      if isDouble then do
        let (piece, c) ← escape c.next
        goOn piece c
      else goOn ['\\'] c.next
    | _ => .ok (chars, c)

/-- Reads a gap inside of quotes. A single line end in it reads as a space. -/
def quotedGap (c : Cursor) : Except Fault (List Char × Cursor) := do
  let (gap, c) := c.span isGap
  match c.peek, c.lineBreak? with
  | none, _ => throw .malformed
  | some _, none => return (gap, c)
  | some _, some (b, c) =>
    let (breaks, c) ← quotedBreaks c.bound c
    let folded := if b != '\n' then [b] else if breaks.isEmpty then [' '] else []
    return (folded ++ breaks, c)

/-- Reads words and gaps up to the closing quote, which is read. The number bounds them. -/
def quotedFrom (quote : Char) : Nat → Cursor → Except Fault (List Char × Cursor)
  | 0, _ => .error .malformed
  | n + 1, c => do
    let (word, c) ← quotedWord (quote == '"') c.bound c
    if c.isAt quote then return (word, c.next)
    let (gap, c) ← quotedGap c
    let (more, c) ← quotedFrom quote n c
    return (word ++ gap ++ more, c)

/-- Reads a scalar between quotes, from its opening quote on. -/
def quoted (quote : Char) (c : Cursor) : Except Fault (List Char × Cursor) :=
  quotedFrom quote (c.bound + 1) c.next

/-! ### Blocks of lines -/

/-- What happens to the line ends at the end of a block. -/
inductive Chomping where
  | strip
  | clip
  | keep
  deriving DecidableEq, Repr

/-- The header of a block: what happens at its end, and how far it is indented if that is given. -/
structure BlockHeader where
  chomping : Chomping
  increment? : Option Nat

/-- Reads a sign that says what happens at the end of a block. -/
def chomping? (c : Cursor) : Option (Chomping × Cursor) :=
  if c.isAt '+' then some (.keep, c.next)
  else if c.isAt '-' then some (.strip, c.next)
  else none

/-- Reads a digit that says how far a block is indented. A zero is refused. -/
def increment? (c : Cursor) : Option (Option Nat × Cursor) :=
  match c.peek with
  | some d =>
    if d == '0' then none
    else if d.isDigit then some (some (d.toNat - '0'.toNat), c.next)
    else some (none, c)
  | none => some (none, c)

/-- Reads the header of a block behind its indicator, with the rest of the line. -/
def blockHeader (c : Cursor) : Option (BlockHeader × Cursor) := do
  let (header, c) ← match chomping? c with
    | some (chomping, c) => do
      let (increment?, c) ← increment? c
      pure ((⟨chomping, increment?⟩ : BlockHeader), c)
    | none => do
      let (increment?, c) ← increment? c
      match increment?, chomping? c with
      | some _, some (chomping, c) => pure ((⟨chomping, increment?⟩ : BlockHeader), c)
      | _, _ => pure ((⟨.clip, increment?⟩ : BlockHeader), c)
  if isWordEnd c.peek then return (header, ← c.skipRestOfLine) else none

/-- Skips the spaces in front up to a column. -/
def skipIndent (indent : Nat) (c : Cursor) : Cursor :=
  c.skip (min (indent - c.column) (c.count (· == ' ')))

/-- Reads empty lines up to an indentation. The number bounds them. -/
def blockBreaks (indent : Nat) : Nat → Cursor → List Char × Cursor
  | 0, c => ([], c)
  | n + 1, c =>
    let c := skipIndent indent c
    match c.lineBreak? with
    | some (b, c) =>
      let (more, c) := blockBreaks indent n c
      (b :: more, c)
    | none => ([], c)

/-- Reads empty lines, and finds the column of the first one that is not empty, or the largest one
before that. The number bounds the lines. -/
def blockIndentation : Nat → Nat → Cursor → List Char × Nat × Cursor
  | 0, widest, c => ([], widest, c)
  | n + 1, widest, c =>
    let c := c.skipSpaces
    let widest := max widest c.column
    match c.lineBreak? with
    | some (b, c) =>
      let (more, widest, c) := blockIndentation n widest c
      (b :: more, widest, c)
    | none => ([], widest, c)

/-- Reads the lines of a block that are indented to the column. Gives their text, the line end of
the last one and the empty lines behind it. The number bounds the lines. -/
def blockLines (isFolded : Bool) (indent : Nat) :
    Nat → List Char → Cursor → List Char × List Char × List Char × Cursor
  | 0, breaks, c => ([], [], breaks, c)
  | n + 1, breaks, c =>
    if c.column = indent ∧ c.peek.isSome then
      let isText := !c.peek.any isGap
      let (chars, c) := c.span (!isBreak ·)
      let lineEnd := (c.lineBreak?.map fun b => [b.1]).getD []
      let c := (c.lineBreak?.map (·.2)).getD c
      let (after, c) := blockBreaks indent c.bound c
      if c.column = indent ∧ c.peek.isSome then
        let joint :=
          if isFolded && lineEnd == ['\n'] && isText && !c.peek.any isGap then
            if after.isEmpty then [' '] else []
          else lineEnd
        let (more, lastEnd, tail, c) := blockLines isFolded indent n after c
        (breaks ++ chars ++ joint ++ more, lastEnd, tail, c)
      else (breaks ++ chars, lineEnd, after, c)
    else ([], [], breaks, c)

/-- Reads a block of lines from its indicator on. Without a header of its own it is indented at
least to the given column. -/
def block (isFolded : Bool) (level : Nat) (c : Cursor) : Option (List Char × Cursor) := do
  let (header, c) ← blockHeader c.next
  let least := max level 1
  let (breaks, indent, c) := match header.increment? with
    | some increment =>
      let indent := least + increment - 1
      let (breaks, c) := blockBreaks indent c.bound c
      (breaks, indent, c)
    | none =>
      let (breaks, widest, c) := blockIndentation (c.bound + 1) 0 c
      (breaks, max least widest, c)
  let (chars, lastEnd, tail, c) := blockLines isFolded indent (c.bound + 1) breaks c
  match header.chomping with
  | .strip => return (chars, c)
  | .clip => return (chars ++ lastEnd, c)
  | .keep => return (chars ++ lastEnd ++ tail, c)

/-! ### Plain scalars -/

/-- Whether a plain scalar ends before the characters. Inside of flow brackets the characters that
have a meaning there end it too. -/
def endsPlain (inFlow : Bool) : List Char → Bool
  | [] => true
  | ':' :: rest =>
    isTokenEnd rest.head? || (inFlow && rest.head?.any fun c => ",[]\x7b\x7d".toList.contains c)
  | c :: _ => isGap c || isBreak c || (inFlow && ",?[]\x7b\x7d".toList.contains c)

/-- The characters of a plain scalar up to a gap. -/
def plainWord (inFlow : Bool) : List Char → List Char
  | [] => []
  | c :: rest => if endsPlain inFlow (c :: rest) then [] else c :: plainWord inFlow rest

/-- Reads empty lines and spaces behind a line of a plain scalar; nothing if a document ends there.
-/
def plainBreaks : Nat → Cursor → Option (List Char) × Cursor
  | 0, c => (some [], c)
  | n + 1, c =>
    let c := c.skipSpaces
    match c.lineBreak? with
    | some (b, c) =>
      if c.isDocumentMark then (none, c)
      else
        let (more, c) := plainBreaks n c
        (more.map (b :: ·), c)
    | none => (some [], c)

structure PlainGap where
  chars : List Char
  /-- The gap holds a line end. -/
  isBroken : Bool
  after : Cursor

/-- Reads a gap in a plain scalar. A single line end in it reads as a space. -/
def plainGap (c : Cursor) : PlainGap :=
  let (spaces, c) := c.span (· == ' ')
  match c.lineBreak? with
  | none => ⟨spaces, false, c⟩
  | some (b, c) =>
    if c.isDocumentMark then ⟨[], true, c⟩
    else match plainBreaks c.bound c with
      | (none, c) => ⟨[], true, c⟩
      | (some breaks, c) =>
        let folded := if b != '\n' then [b] else if breaks.isEmpty then [' '] else []
        ⟨folded ++ breaks, true, c⟩

/-- Reads the words and gaps of a plain scalar. Says whether it ends behind a line end. The number
bounds the words. -/
def plainFrom (inFlow : Bool) (level : Nat) : Nat → Cursor → List Char × Bool × Cursor
  | 0, c => ([], false, c)
  | n + 1, c =>
    let word := plainWord inFlow c.rest
    let gap := plainGap (c.skip word.length)
    let next := gap.after
    let isOver := gap.chars.isEmpty || next.isAt '#' || (!inFlow && next.column < level) ||
      (plainWord inFlow next.rest).isEmpty
    if isOver then (word, gap.isBroken, next)
    else
      let (more, isBroken, c) := plainFrom inFlow level n next
      (word ++ gap.chars ++ more, isBroken, c)

/-- Reads a plain scalar that is indented at least to the level. Says whether it ends behind a line
end. -/
def plain (inFlow : Bool) (level : Nat) (c : Cursor) : List Char × Bool × Cursor :=
  plainFrom inFlow level (c.bound + 1) c

end TaggedSuite.Yaml
