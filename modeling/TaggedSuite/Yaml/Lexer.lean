import TaggedSuite.Yaml.Scalar
import TaggedSuite.Yaml.Token

/-!
# Splitting a YAML text into tokens

Whether a token begins a key of a mapping shows only at the colon behind it. So a token that may
begin a key is remembered, and the tokens that stand for the key and for its block are put in front
of it when all tokens are known.
-/
namespace TaggedSuite.Yaml
open Cursor

/-- A token that may begin a key without a mark of its own. -/
structure PossibleKey where
  /-- The number of tokens before it. -/
  position : Nat
  /-- The token stands where only a key may stand. -/
  isRequired : Bool
  index : Nat
  line : Nat
  column : Nat

/-- A key that is found: the number of tokens before it, and whether a block begins with it. -/
structure FoundKey where
  position : Nat
  beginsBlock : Bool

structure LexState where
  cursor : Cursor
  /-- The tokens so far, last one first. -/
  tokens : List Token
  found : List FoundKey
  flowLevel : Nat
  /-- The column behind the indentation of the innermost block; zero outside of blocks. -/
  level : Nat
  /-- The levels of the outer blocks. -/
  outer : List Nat
  allowsKey : Bool
  /-- What may begin a key, with the flow level where it stands. -/
  possible : List (Nat × PossibleKey)

/-- A step of the lexer. It fails if the text is no YAML. -/
abbrev Lex := StateT LexState (Except Fault)

namespace Lex

def refuse {α : Type} : Lex α := throw .malformed

def cursor : Lex Cursor := do return (← get).cursor

/-- Goes on behind the place. -/
def moveTo (c : Cursor) : Lex Unit := modify fun s => { s with cursor := c }

def emit (t : Token) : Lex Unit := modify fun s => { s with tokens := t :: s.tokens }

/-- Says whether a key may begin behind the token. -/
def allowKey (allows : Bool) : Lex Unit := modify fun s => { s with allowsKey := allows }

/-- Whether the next character stands inside of flow brackets. -/
def inFlow : Lex Bool := do return (← get).flowLevel != 0

/-- Forgets what may begin a key on another line or too far away. What must begin a key cannot be
forgotten. -/
def forgetStale : Lex Unit := do
  let s ← get
  let isStale (k : PossibleKey) : Bool :=
    k.line != s.cursor.line || 1024 < s.cursor.index - k.index
  if s.possible.any fun k => isStale k.2 && k.2.isRequired then refuse
  set { s with possible := s.possible.filter fun k => !isStale k.2 }

/-- Forgets what may begin a key on this flow level. -/
def forgetPossible : Lex Unit := do
  let s ← get
  if s.possible.any fun k => k.1 == s.flowLevel && k.2.isRequired then refuse
  set { s with possible := s.possible.filter fun k => k.1 != s.flowLevel }

/-- Remembers that the next token may begin a key. -/
def rememberPossible : Lex Unit := do
  if (← get).allowsKey then
    forgetPossible
    let s ← get
    let isRequired := s.flowLevel == 0 && s.level == s.cursor.column + 1
    let k : PossibleKey :=
      ⟨s.tokens.length, isRequired, s.cursor.index, s.cursor.line, s.cursor.column⟩
    set { s with possible := (s.flowLevel, k) :: s.possible }

/-- Closes levels that are deeper than the given one; the number bounds them. -/
def closeLevels (level : Nat) : Nat → LexState → LexState
  | 0, s => s
  | n + 1, s =>
    if level < s.level then
      closeLevels level n
        { s with level := s.outer.headD 0, outer := s.outer.tail, tokens := .blockEnd :: s.tokens }
    else s

/-- Closes the blocks that are indented deeper than the level. Indentation does not count inside of
flow brackets. -/
def unwind (level : Nat) : Lex Unit :=
  modify fun s => if s.flowLevel = 0 then closeLevels level (s.outer.length + 1) s else s

/-- Opens a block at a column if it is deeper than the innermost one, and says whether it did. -/
def openLevel (column : Nat) : Lex Bool := do
  let s ← get
  if s.level < column + 1 then
    set { s with level := column + 1, outer := s.level :: s.outer }
    return true
  else return false

/-! ### Tokens -/

/-- Ends every block and every key, as a mark or directive of a document does. -/
def endBlocks : Lex Unit := do
  unwind 0
  forgetPossible
  allowKey false

/-- Reads the mark at the beginning or the end of a document. -/
def documentMark (t : Token) : Lex Unit := do
  endBlocks
  moveTo ((← cursor).skip 3)
  emit t

def flowStart (t : Token) : Lex Unit := do
  rememberPossible
  modify fun s => { s with flowLevel := s.flowLevel + 1 }
  allowKey true
  moveTo (← cursor).next
  emit t

/-- Reads a closing flow bracket. One that closes nothing is refused. -/
def flowEnd (t : Token) : Lex Unit := do
  forgetPossible
  if (← get).flowLevel = 0 then refuse
  modify fun s => { s with flowLevel := s.flowLevel - 1 }
  allowKey false
  moveTo (← cursor).next
  emit t

/-- Reads a comma between flow items. -/
def flowEntry : Lex Unit := do
  allowKey true
  forgetPossible
  moveTo (← cursor).next
  emit .flowEntry

/-- Opens a block at the next character, where a key has to be allowed. -/
def openBlockHere (t : Token) : Lex Unit := do
  if !(← inFlow) then
    if !(← get).allowsKey then refuse
    if ← openLevel (← cursor).column then emit t

/-- Reads the mark of an item of a block. -/
def blockEntry : Lex Unit := do
  openBlockHere .blockSequenceStart
  allowKey true
  forgetPossible
  moveTo (← cursor).next
  emit .blockEntry

def keyMark : Lex Unit := do
  openBlockHere .blockMappingStart
  allowKey (!(← inFlow))
  forgetPossible
  moveTo (← cursor).next
  emit .key

/-- Reads the mark of a value. It makes a key of what may begin one. -/
def valueMark : Lex Unit := do
  let s ← get
  match s.possible.find? fun k => k.1 == s.flowLevel with
  | some (_, k) =>
    set { s with possible := s.possible.filter fun k => k.1 != s.flowLevel }
    let beginsBlock ← if s.flowLevel = 0 then openLevel k.column else pure false
    modify fun s => { s with found := ⟨k.position, beginsBlock⟩ :: s.found }
    allowKey false
  | none =>
    openBlockHere .blockMappingStart
    allowKey (!(← inFlow))
    forgetPossible
  moveTo (← cursor).next
  emit .value

/-- Reads the name of an anchor or alias behind its mark. -/
def anchorName : Lex String := do
  let (chars, c) := (← cursor).next.span isNameChar
  if chars.isEmpty then refuse
  if !(isTokenEnd c.peek || c.peek.any fun x => "?:,]\x7d%@`".toList.contains x) then refuse
  moveTo c
  return String.ofList chars

def anchor (mk : String → Token) : Lex Unit := do
  rememberPossible
  allowKey false
  emit (mk (← anchorName))

/-- Whether the character may stand in the address that a tag stands for. -/
def isAddressChar (c : Char) : Bool := c.isAlphanum || "-;/?:@&=+$,_.!~*'()[]".toList.contains c

/-- The bytes that percent signs write at the front. -/
def addressBytes : Nat → List Char → Option (List UInt8 × List Char)
  | 0, cs => some ([], cs)
  | n + 1, '%' :: a :: b :: rest =>
    if isHexDigit a && isHexDigit b then do
      let (more, rest) ← addressBytes n rest
      return (.ofNat (hexNumber [a, b]) :: more, rest)
    else none
  | _ + 1, '%' :: _ => none
  | _ + 1, cs => some ([], cs)

/-- The characters of an address at the front, with those that percent signs write. The number
bounds the steps. -/
def addressChars : Nat → List Char → Option (List Char × List Char)
  | 0, cs => some ([], cs)
  | n + 1, cs =>
    match cs with
    | '%' :: _ => do
      let (bytes, rest) ← addressBytes cs.length cs
      let text ← String.fromUTF8? (.mk bytes.toArray)
      let (more, rest) ← addressChars n rest
      return (text.toList ++ more, rest)
    | c :: rest =>
      if isAddressChar c then do
        let (more, rest) ← addressChars n rest
        return (c :: more, rest)
      else some ([], cs)
    | [] => some ([], [])

/-- Reads an address, which is not empty. -/
def address : Lex String := do
  let c ← cursor
  let (chars, rest) ← liftM (orMalformed (addressChars c.bound c.rest))
  if chars.isEmpty then refuse
  moveTo (c.skip (c.rest.length - rest.length))
  return String.ofList chars

/-- Reads the handle of a tag: an exclamation mark, or a name between two of them. -/
def tagHandle : Lex String := do
  let c ← cursor
  if !c.isAt '!' then refuse
  let (chars, after) := c.next.span isNameChar
  if after.isAt '!' && !c.next.isAt ' ' then
    moveTo after.next
    return String.ofList ('!' :: chars ++ ['!'])
  else if c.next.isAt ' ' then
    moveTo c.next
    return "!"
  else refuse

/-- Whether another exclamation mark follows in the tag. -/
def hasHandle (c : Cursor) : Bool :=
  (c.next.rest.takeWhile fun x => x != ' ' && !isBreak x).contains '!'

def tag : Lex Unit := do
  rememberPossible
  allowKey false
  let c ← cursor
  let t ← if c.peekAt 1 == some '<' then do
      moveTo (c.skip 2)
      let suffix ← address
      if !(← cursor).isAt '>' then refuse
      moveTo (← cursor).next
      pure (Token.tag none suffix)
    else if isTokenEnd (c.peekAt 1) then do
      moveTo c.next
      pure (Token.tag none "!")
    else do
      let handle ← if hasHandle c then tagHandle else do
        moveTo c.next
        pure "!"
      pure (Token.tag (some handle) (← address))
  if !isWordEnd (← cursor).peek then refuse
  emit t

def number : Lex Nat := do
  let (digits, c) := (← cursor).span Char.isDigit
  if digits.isEmpty then refuse
  moveTo c
  return digits.foldl (fun n d => 10 * n + (d.toNat - '0'.toNat)) 0

def version : Lex Token := do
  moveTo (← cursor).skipSpaces
  let major ← number
  if !(← cursor).isAt '.' then refuse
  moveTo (← cursor).next
  discard number
  if !isWordEnd (← cursor).peek then refuse
  return .version major

/-- Reads the handle of a directive and what it is short for. -/
def handleDirective : Lex Token := do
  moveTo (← cursor).skipSpaces
  let handle ← tagHandle
  if !(← cursor).isAt ' ' then refuse
  moveTo (← cursor).skipSpaces
  let shorthand ← address
  if !isWordEnd (← cursor).peek then refuse
  return .tagHandle handle shorthand

def directive : Lex Unit := do
  endBlocks
  let (name, c) := (← cursor).next.span isNameChar
  if name.isEmpty || !isWordEnd c.peek then refuse
  moveTo c
  let t ← match String.ofList name with
    | "YAML" => version
    | "TAG" => handleDirective
    | _ => do
      moveTo ((← cursor).skipWhile (!isBreak ·))
      pure .otherDirective
  moveTo (← liftM (orMalformed (← cursor).skipRestOfLine))
  emit t

/-- Reads a scalar written as a block of lines. -/
def blockScalar (isFolded : Bool) : Lex Unit := do
  allowKey true
  forgetPossible
  let s ← get
  let (chars, c) ← liftM (orMalformed (block isFolded s.level s.cursor))
  moveTo c
  emit (.scalar (String.ofList chars) false)

def quotedScalar (quote : Char) : Lex Unit := do
  rememberPossible
  allowKey false
  let (chars, c) ← liftM (quoted quote (← cursor))
  moveTo c
  emit (.scalar (String.ofList chars) false)

def plainScalar : Lex Unit := do
  rememberPossible
  let s ← get
  let (chars, isBroken, c) := plain (s.flowLevel != 0) s.level s.cursor
  allowKey isBroken
  moveTo c
  emit (.scalar (String.ofList chars) true)

/-- Whether a plain scalar can begin with the next character. -/
def beginsPlain (inFlow : Bool) (c : Cursor) : Bool :=
  match c.peek with
  | none => false
  | some x =>
    !(isGap x || isBreak x || "-?:,[]\x7b\x7d#&*!|>'\"%@`".toList.contains x) ||
      (!isTokenEnd (c.peekAt 1) && (x == '-' || (!inFlow && (x == '?' || x == ':'))))

/-- Skips spaces, comments and line ends; a line end allows a key outside of flow brackets. The
number bounds the lines. -/
def skipToToken : Nat → Lex Unit
  | 0 => return
  | n + 1 => do
    let c := (← cursor).skipSpaces.skipComment
    match c.lineBreak? with
    | some (_, c) =>
      moveTo c
      if !(← inFlow) then allowKey true
      skipToToken n
    | none => moveTo c

/-- Reads the next token, and says whether there was one. -/
def token : Lex Bool := do
  skipToToken ((← cursor).bound + 1)
  forgetStale
  let c ← cursor
  unwind (c.column + 1)
  let flow ← inFlow
  match c.peek with
  | none =>
    endBlocks
    return false
  | some x =>
    let isLone := isTokenEnd (c.peekAt 1)
    if x == '%' && c.column == 0 then directive
    else if c.column == 0 && c.isMark '-' then documentMark .documentStart
    else if c.column == 0 && c.isMark '.' then documentMark .documentEnd
    else if x == '[' then flowStart .flowSequenceStart
    else if x == '\x7b' then flowStart .flowMappingStart
    else if x == ']' then flowEnd .flowSequenceEnd
    else if x == '\x7d' then flowEnd .flowMappingEnd
    else if x == ',' then flowEntry
    else if x == '-' && isLone then blockEntry
    else if x == '?' && (flow || isLone) then keyMark
    else if x == ':' && (flow || isLone) then valueMark
    else if x == '*' then anchor .aliasOf
    else if x == '&' then anchor .anchor
    else if x == '!' then tag
    else if x == '|' && !flow then blockScalar false
    else if x == '>' && !flow then blockScalar true
    else if x == '\'' || x == '"' then quotedScalar x
    else if beginsPlain flow c then plainScalar
    else refuse
    return true

/-- Reads all tokens; the number bounds them. -/
def tokens : Nat → Lex Unit
  | 0 => refuse
  | n + 1 => do if ← token then tokens n

end Lex

/-- Puts the tokens of the found keys, which are in ascending order, in front of the tokens that
begin them. The number counts the tokens before. -/
def placeKeys : List FoundKey → Nat → List Token → List Token
  | _, _, [] => []
  | found, n, t :: rest =>
    let here := found.takeWhile fun k => k.position == n
    let blocks := if here.any (·.beginsBlock) then [Token.blockMappingStart] else []
    let keys := if here.isEmpty then [] else [Token.key]
    blocks ++ keys ++ t :: placeKeys (found.drop here.length) (n + 1) rest

/-- The tokens of a text. A byte order mark may stand in front. -/
def lex (cs : List Char) : Except Fault (List Token) := do
  if !cs.all isAllowed then throw .malformed
  let c := Cursor.start cs
  let c := if c.isAt '\uFEFF' then c.next else c
  let (_, s) ← Lex.tokens (cs.length + 2) ⟨c, [], [], 0, 0, [], true, []⟩
  let found := s.found.mergeSort fun a b => a.position ≤ b.position
  return placeKeys found 0 s.tokens.reverse

end TaggedSuite.Yaml
