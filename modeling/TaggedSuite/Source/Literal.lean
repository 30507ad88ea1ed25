import TaggedSuite.Source.Number
import TaggedSuite.Source.Token
import TaggedSuite.Text.CharacterName
import TaggedSuite.Text.Halves

/-!
# What string literals stand for

Escapes are read here, and a formatted literal is split into the expressions that it holds.
-/
namespace TaggedSuite.Source

def hexDigit? (c : Char) : Option Nat :=
  if c.isDigit then some (c.toNat - '0'.toNat)
  else if 'a' ≤ c ∧ c ≤ 'f' then some (c.toNat - 'a'.toNat + 10)
  else if 'A' ≤ c ∧ c ≤ 'F' then some (c.toNat - 'A'.toNat + 10)
  else none

/-- The number that exactly the given count of hexadecimal digits write, and what follows them. -/
def hexRun? : Nat → Nat → List Char → Option (Nat × List Char)
  | 0, n, rest => some (n, rest)
  | _ + 1, _, [] => none
  | count + 1, n, c :: rest => do
    let d ← hexDigit? c
    hexRun? count (16 * n + d) rest

/-- The number that the octal digits in front write, at most the given count of them. -/
def octalRun : Nat → Nat → List Char → Nat × List Char
  | 0, n, rest => (n, rest)
  | _ + 1, n, [] => (n, [])
  | count + 1, n, c :: rest =>
    if isOctalDigit c then octalRun count (8 * n + (c.toNat - '0'.toNat)) rest else (n, c :: rest)

/-- The second half of a code, if an escape writes one in front. -/
def secondHalf? : List Char → Option (Nat × List Char)
  | '\\' :: 'u' :: rest => do
    let (n, after) ← hexRun? 4 0 rest
    if Text.isSecondHalf n then return (n, after) else none
  | _ => none

/-- The character with a code, and what follows it; none beyond the last code. Another escape behind
it may write the second half of the code. -/
def codePoint? (n : Nat) (rest : List Char) : Option (List Char × List Char) :=
  if 0x10FFFF < n then none
  else match Text.isFirstHalf n, secondHalf? rest with
    | true, some (second, after) => some ([Text.joinHalves n second], after)
    | _, _ => some ([Text.characterOf n], rest)

/-- The characters of the escapes that consist of one letter. -/
def letterEscape? : Char → Option Char
  | '\\' => some '\\'
  | '\'' => some '\''
  | '"' => some '"'
  | 'a' => some '\x07'
  | 'b' => some '\x08'
  | 'f' => some '\x0c'
  | 'n' => some '\n'
  | 'r' => some '\r'
  | 't' => some '\t'
  | 'v' => some '\x0b'
  | _ => none

/-- Reads the name of a character between braces. -/
def namedCharacter? (rest : List Char) : Option (Char × List Char) :=
  match rest with
  | '\x7b' :: rest =>
    match rest.dropWhile (· != '\x7d') with
    | _ :: after =>
      (Text.CharacterName.find? (String.ofList (rest.takeWhile (· != '\x7d')))).map (·, after)
    | [] => none
  | _ => none

/-- Reads an escape after its backslash: the characters that it stands for, and what follows it. An
unknown escape stands for itself, backslash included. -/
def escape? (isBytes : Bool) (cs : List Char) : Option (List Char × List Char) :=
  match cs with
  | [] => some (['\\'], [])
  | c :: rest =>
    if c = '\n' then some ([], rest)
    else match letterEscape? c with
      | some e => some ([e], rest)
      | none =>
        let coded (count : Nat) : Option (List Char × List Char) := do
          let (n, after) ← hexRun? count 0 rest
          codePoint? n after
        if isOctalDigit c then
          let (n, after) := octalRun 3 0 cs
          some ([Char.ofNat n], after)
        else if c = 'x' then coded 2
        else if isBytes then some (['\\', c], rest)
        else if c = 'u' then coded 4
        else if c = 'U' then coded 8
        else if c = 'N' then (namedCharacter? rest).map fun (e, after) => ([e], after)
        else some (['\\', c], rest)

/-- The characters of a literal's body with its escapes replaced, given an upper bound for their
number. -/
def decodeFrom (isBytes : Bool) : Nat → List Char → Option (List Char)
  | 0, _ => some []
  | _ + 1, [] => some []
  | fuel + 1, '\\' :: rest => do
    let (es, after) ← escape? isBytes rest
    return es ++ (← decodeFrom isBytes fuel after)
  | fuel + 1, c :: rest => do return c :: (← decodeFrom isBytes fuel rest)

/-- The characters that a literal's body stands for. -/
def decodeBody (isBytes isRaw : Bool) (body : List Char) : Option (List Char) :=
  if isRaw then some body else decodeFrom isBytes body.length body

/-- A part of a formatted literal that is an expression: its characters, the line feeds before it
and the expressions of its format. -/
inductive Field where
  | mk (source : List Char) (lineOffset : Nat) (format : List Field)
  deriving Inhabited

/-- Where a search for the end of a field's expression stands. -/
structure FieldScan where
  /-- The quote of the string inside which the search is, and whether it is a long one. -/
  quote? : Option (Char × Bool)
  /-- The closers of the open brackets, innermost first. -/
  awaited : List Char

/-- The bracket that closes an opening bracket. -/
def closerOf? : Char → Option Char
  | '(' => some ')'
  | '[' => some ']'
  | '\x7b' => some '\x7d'
  | _ => none

/-- Splits a field's expression from what follows it. It ends before an exclamation mark, a colon, a
closing brace or an equals sign that is outside of brackets and strings and is not part of a
comparison. Backslashes and comments are refused. -/
def fieldSource (scan : FieldScan) : List Char → Option (List Char × List Char)
  | [] => none
  | c :: rest =>
    let go (scan : FieldScan) : Option (List Char × List Char) := do
      let (source, after) ← fieldSource scan rest
      return (c :: source, after)
    if c = '\\' then none
    else match scan.quote? with
      | some (q, true) =>
        match rest with
        | a :: b :: after =>
          if c = q ∧ a = q ∧ b = q then do
            let (source, after) ← fieldSource { scan with quote? := none } after
            return (c :: a :: b :: source, after)
          else go scan
        | _ => go scan
      | some (q, false) => go (if c = q then { scan with quote? := none } else scan)
      | none =>
        if c = '\'' ∨ c = '"' then
          match rest with
          | a :: b :: after =>
            if a = c ∧ b = c then do
              let (source, after) ← fieldSource { scan with quote? := some (c, true) } after
              return (c :: a :: b :: source, after)
            else go { scan with quote? := some (c, false) }
          | _ => go { scan with quote? := some (c, false) }
        else match closerOf? c with
          | some closer =>
            if scan.awaited.length < 200 then go { scan with awaited := closer :: scan.awaited }
            else none
          | none =>
            if c = '#' then none
            else if scan.awaited.isEmpty ∧ ['!', ':', '\x7d', '=', '>', '<'].contains c then
              match rest with
              | '=' :: after =>
                if c = ':' ∨ c = '\x7d' then some ([], c :: rest)
                else do
                  let (source, after) ← fieldSource scan after
                  return (c :: '=' :: source, after)
              | _ => if c = '>' ∨ c = '<' then go scan else some ([], c :: rest)
            else if c = ')' ∨ c = ']' ∨ c = '\x7d' then
              match scan.awaited with
              | closer :: outer => if c = closer then go { scan with awaited := outer } else none
              | [] => none
            else go scan

/-- Whether the character is blank between the tokens of an expression. -/
def isExpressionBlank (c : Char) : Bool := c == ' ' || c == '\t' || c == '\n' || c == '\x0c'

/-- What follows a conversion, if one stands in front. -/
def skipConversion? (rest : List Char) : Option (List Char) :=
  match rest with
  | '!' :: c :: after => if c = 's' ∨ c = 'r' ∨ c = 'a' then some after else none
  | '!' :: [] => none
  | _ => some rest

/-- Splits the characters before the next field or the end of a formatted literal. In the outermost
literal a doubled brace stands for itself; a single closing brace is refused there and ends the
format of a field elsewhere. -/
def plainPart (isRaw isOuter : Bool) : List Char → Option (List Char × List Char)
  | [] => some ([], [])
  | '\\' :: 'N' :: '\x7b' :: rest =>
    if isRaw then do
      let (plain, after) ← plainPart isRaw isOuter ('N' :: '\x7b' :: rest)
      return ('\\' :: plain, after)
    else
      let name := rest.takeWhile (· != '\x7d')
      match h : rest.dropWhile (· != '\x7d') with
      | [] => some ('\\' :: 'N' :: '\x7b' :: name, [])
      | b :: after =>
        have : after.length < rest.length := by
          have := (List.dropWhile_sublist (l := rest) (· != '\x7d')).length_le
          rw [h, List.length_cons] at this
          omega
        do
          let (plain, after) ← plainPart isRaw isOuter after
          return ('\\' :: 'N' :: '\x7b' :: name ++ b :: plain, after)
  | c :: rest =>
    if c = '\\' ∧ !isRaw ∧ rest.head? ≠ some '\x7b' ∧ rest.head? ≠ some '\x7d' then
      match rest with
      | d :: rest => do
        let (plain, after) ← plainPart isRaw isOuter rest
        return (c :: d :: plain, after)
      | [] => some ([c], [])
    else if c = '\x7b' ∨ c = '\x7d' then
      if isOuter then
        match rest with
        | d :: rest' =>
          if d = c then do
            let (plain, after) ← plainPart isRaw isOuter rest'
            return (c :: plain, after)
          else if c = '\x7d' then none else some ([], c :: rest)
        | [] => if c = '\x7d' then none else some ([], [c])
      else some ([], c :: rest)
    else do
      let (plain, after) ← plainPart isRaw isOuter rest
      return (c :: plain, after)
  termination_by cs => cs.length
  decreasing_by all_goals simp_all only [List.length_cons]; omega

/-- The fields of a formatted literal or of a field's format, given an upper bound for the number of
steps, and what follows them. `depth` is 0 for the literal itself; fields can be nested twice.
`offset` counts the line feeds before the characters. -/
def fieldsFrom (isRaw : Bool) : Nat → Nat → Nat → List Char → Option (List Field × List Char)
  | 0, _, _, _ => none
  | fuel + 1, depth, offset, cs => do
    let (plain, rest) ← plainPart isRaw (depth == 0) cs
    discard (decodeBody false isRaw plain)
    match rest with
    | '\x7b' :: inner =>
      if 2 ≤ depth then none
      else do
        let here := offset + (cs.take (cs.length - rest.length)).count '\n'
        let (source, after) ← fieldSource ⟨none, []⟩ inner
        if source.all isExpressionBlank then none
        else do
          let after := match after with
            | '=' :: rest => rest.dropWhile fun c => isExpressionBlank c || c == '\x0b' || c == '\r'
            | rest => rest
          let after ← skipConversion? after
          let (format, after) ← match after with
            | ':' :: spec =>
              let before := (cs.take (cs.length - spec.length)).count '\n'
              fieldsFrom isRaw fuel (depth + 1) (offset + before) spec
            | rest => some ([], rest)
          match after with
          | '\x7d' :: after =>
            let passed := (cs.take (cs.length - after.length)).count '\n'
            let (others, after) ← fieldsFrom isRaw fuel depth (offset + passed) after
            return (.mk source here format :: others, after)
          | _ => none
    | rest => some ([], rest)

def fields? (isRaw : Bool) (body : List Char) : Option (List Field) := do
  let (fields, rest) ← fieldsFrom isRaw (2 * body.length + 2) 0 0 body
  if rest.isEmpty then some fields else none

end TaggedSuite.Source
