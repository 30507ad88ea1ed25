/-!
# Places in a YAML text

A cursor stands before a character of the text. It knows the characters that are left, and its line
and column. The classes of characters speak of what a cursor may find, which is nothing at the end.
-/
namespace TaggedSuite.Yaml

/-- Whether the character may stand in a text at all. -/
def isAllowed (c : Char) : Bool :=
  c == '\t' || c == '\n' || c == '\r' || c == '\x85' || (' ' ≤ c && c ≤ '~') ||
    ('\xa0' ≤ c && c ≤ '\uFFFD') || 0x10000 ≤ c.toNat

def isBreak (c : Char) : Bool :=
  c == '\n' || c == '\r' || c == '\x85' || c == '\u2028' || c == '\u2029'

/-- Whether the character is a space or a tab. -/
def isGap (c : Char) : Bool := c == ' ' || c == '\t'

/-- Whether a line or the text ends here. -/
def isLineEnd (found : Option Char) : Bool := found.all isBreak

/-- Whether a word ends here: at a space, a line end or the end. -/
def isWordEnd (found : Option Char) : Bool := found.all fun c => c == ' ' || isBreak c

/-- Whether a word ends here, where a tab ends words too. -/
def isTokenEnd (found : Option Char) : Bool := found.all fun c => isGap c || isBreak c

/-- Whether the character may stand in the name of an anchor or a directive. -/
def isNameChar (c : Char) : Bool := c.isAlphanum || c == '-' || c == '_'

def isHexDigit (c : Char) : Bool := c.isDigit || ('a' ≤ c && c ≤ 'f') || ('A' ≤ c && c ≤ 'F')

def hexDigit (c : Char) : Nat :=
  if c.isDigit then c.toNat - '0'.toNat
  else if 'a' ≤ c then c.toNat - 'a'.toNat + 10
  else c.toNat - 'A'.toNat + 10

/-- The number that hexadecimal digits write. -/
def hexNumber (cs : List Char) : Nat := cs.foldl (fun n c => 16 * n + hexDigit c) 0

structure Cursor where
  rest : List Char
  index : Nat
  line : Nat
  column : Nat
  /-- The number of characters of the whole text. No loop takes more steps. -/
  bound : Nat
  deriving Repr, Inhabited

namespace Cursor

def start (cs : List Char) : Cursor := ⟨cs, 0, 0, 0, cs.length⟩

def peek (c : Cursor) : Option Char := c.rest.head?

/-- The character after a number of others. -/
def peekAt (c : Cursor) (n : Nat) : Option Char := c.rest[n]?

/-- Whether the next character is the given one. -/
def isAt (c : Cursor) (x : Char) : Bool := c.peek == some x

/-- The place behind the next character. A byte order mark takes no column. -/
def next (c : Cursor) : Cursor :=
  match c.rest with
  | [] => c
  | x :: rest =>
    let c := { c with rest, index := c.index + 1 }
    if isBreak x && !(x == '\r' && rest.head? == some '\n') then
      { c with line := c.line + 1, column := 0 }
    else { c with column := if x == '\uFEFF' then c.column else c.column + 1 }

/-- The place behind a number of characters. -/
def skip (c : Cursor) : Nat → Cursor
  | 0 => c
  | n + 1 => c.next.skip n

/-- The number of characters in front that satisfy the condition. -/
def count (c : Cursor) (p : Char → Bool) : Nat := (c.rest.takeWhile p).length

/-- Splits off the characters in front that satisfy the condition. -/
def span (c : Cursor) (p : Char → Bool) : List Char × Cursor :=
  (c.rest.takeWhile p, c.skip (c.count p))

/-- The place behind the characters in front that satisfy the condition. -/
def skipWhile (c : Cursor) (p : Char → Bool) : Cursor := c.skip (c.count p)

def skipSpaces (c : Cursor) : Cursor := c.skipWhile (· == ' ')

/-- The place behind a comment, if there is one. -/
def skipComment (c : Cursor) : Cursor := if c.isAt '#' then c.skipWhile (!isBreak ·) else c

/-- Reads a line end. All of them read as a line feed, but for the two separators of Unicode. -/
def lineBreak? (c : Cursor) : Option (Char × Cursor) :=
  match c.rest with
  | '\r' :: '\n' :: _ => some ('\n', c.skip 2)
  | x :: _ =>
    if x == '\n' || x == '\r' || x == '\x85' then some ('\n', c.next)
    else if isBreak x then some (x, c.next)
    else none
  | [] => none

/-- The place behind spaces, a comment and a line end; nothing else may come before that end. -/
def skipRestOfLine (c : Cursor) : Option Cursor :=
  let c := c.skipSpaces.skipComment
  if isLineEnd c.peek then some ((c.lineBreak?.map (·.2)).getD c) else none

/-- Whether three characters of the mark and the end of a word are next. -/
def isMark (c : Cursor) (x : Char) : Bool :=
  c.rest.take 3 == [x, x, x] && isTokenEnd (c.peekAt 3)

/-- Whether a line here would begin or end a document. -/
def isDocumentMark (c : Cursor) : Bool := c.isMark '-' || c.isMark '.'

end Cursor

end TaggedSuite.Yaml
