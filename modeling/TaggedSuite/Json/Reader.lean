import TaggedSuite.Number.Numeral
import TaggedSuite.Text.Halves
import TaggedSuite.Value.Basic

/-!
# Reading JSON

One value between blanks, and nothing after it. Besides the standard notation `NaN`, `Infinity` and
`-Infinity` are numbers. A repeated key keeps its first place and takes its last value. A fault is
reported with the place where it was noticed.
-/
namespace TaggedSuite.Json

/-- Why a text is not JSON. -/
inductive Fault where
  | byteOrderMark
  | expectingValue
  | expectingName
  | expectingColon
  | expectingComma
  | extraData
  | unterminatedText
  | controlCharacter
  | invalidEscape
  | invalidCodeEscape
  /-- The text is in order so far, but an integer has too many digits. -/
  | numeral (f : Numeral.Fault)
  deriving DecidableEq, Repr

def Fault.message : Fault → String
  | byteOrderMark => "Unexpected UTF-8 BOM (decode using utf-8-sig)"
  | expectingValue => "Expecting value"
  | expectingName => "Expecting property name enclosed in double quotes"
  | expectingColon => "Expecting ':' delimiter"
  | expectingComma => "Expecting ',' delimiter"
  | extraData => "Extra data"
  | unterminatedText => "Unterminated string starting at"
  | controlCharacter => "Invalid control character at"
  | invalidEscape => "Invalid \\escape"
  | invalidCodeEscape => "Invalid \\uXXXX escape"
  | numeral f => f.message

/-- A fault with the characters from its place to the end of the text. -/
structure Failure where
  fault : Fault
  rest : List Char
  deriving DecidableEq, Repr

/-- The characters that may stand between any two parts of a text. -/
def isGap (c : Char) : Bool := c == ' ' || c == '\t' || c == '\n' || c == '\r'

/-- The characters from the next part on. -/
def skipGap (cs : List Char) : List Char := cs.dropWhile isGap

def hexValue? (c : Char) : Option Nat :=
  if c.isDigit then some (c.toNat - '0'.toNat)
  else if 'a' ≤ c ∧ c ≤ 'f' then some (c.toNat - 'a'.toNat + 10)
  else if 'A' ≤ c ∧ c ≤ 'F' then some (c.toNat - 'A'.toNat + 10)
  else none

/-- The number written by four hexadecimal digits. -/
def hexFour? (a b c d : Char) : Option Nat := do
  let a ← hexValue? a
  let b ← hexValue? b
  let c ← hexValue? c
  let d ← hexValue? d
  return ((a * 16 + b) * 16 + c) * 16 + d

/-- The number written by decimal digits. -/
def digitsValue (ds : List Char) : Nat := ds.foldl (fun n c => n * 10 + (c.toNat - '0'.toNat)) 0

/-- The character of a one-letter escape. -/
def escaped? : Char → Option Char
  | '"' => some '"'
  | '\\' => some '\\'
  | '/' => some '/'
  | 'b' => some '\x08'
  | 'f' => some '\x0c'
  | 'n' => some '\n'
  | 'r' => some '\r'
  | 't' => some '\t'
  | _ => none

/-- Reads the four digits of a code escape; `at` is the text from its letter on. Something must
follow the digits. -/
def codeUnit (whole : List Char) : List Char → Except Failure (Nat × List Char)
  | a :: b :: c :: d :: e :: rest =>
    match hexFour? a b c d with
    | some n => .ok (n, e :: rest)
    | none => .error ⟨.invalidCodeEscape, whole⟩
  | _ => .error ⟨.invalidCodeEscape, whole⟩

/-- Reads the digits of a code escape and, after the first half of a pair, of the second half. -/
def codeEscape (whole digits : List Char) : Except Failure (Char × List Char) := do
  let (n, rest) ← codeUnit whole digits
  match Text.isFirstHalf n, rest with
  | true, '\\' :: 'u' :: second =>
    if (second.take 5).length < 5 then return (Text.characterOf n, rest)
    let (m, after) ← codeUnit ('u' :: second) second
    if Text.isSecondHalf m then return (Text.joinHalves n m, after)
    else return (Text.characterOf n, rest)
  | _, rest => return (Text.characterOf n, rest)

/-- Reads the characters of a text up to its closing quote. `start` is the text from its opening
quote on; the characters read so far are given last first. -/
def textBody (start : List Char) : Nat → List Char → List Char → Except Failure (String × List Char)
  | 0, _, _ => .error ⟨.unterminatedText, start⟩
  | _ + 1, _, [] => .error ⟨.unterminatedText, start⟩
  | _ + 1, acc, '"' :: rest => .ok (String.ofList acc.reverse, rest)
  | _ + 1, _, '\\' :: [] => .error ⟨.unterminatedText, start⟩
  | fuel + 1, acc, '\\' :: 'u' :: rest => do
    let (c, rest) ← codeEscape ('u' :: rest) rest
    textBody start fuel (c :: acc) rest
  | fuel + 1, acc, '\\' :: c :: rest =>
    match escaped? c with
    | some e => textBody start fuel (e :: acc) rest
    | none => .error ⟨.invalidEscape, '\\' :: c :: rest⟩
  | fuel + 1, acc, c :: rest =>
    if c.toNat ≤ 0x1f then .error ⟨.controlCharacter, c :: rest⟩
    else textBody start fuel (c :: acc) rest

/-- Reads a text after its opening quote. -/
def text (rest : List Char) : Except Failure (String × List Char) :=
  textBody ('"' :: rest) (rest.length + 1) [] rest

/-- The digits in front, and the characters after them. -/
def digitRun (cs : List Char) : List Char × List Char := cs.span Char.isDigit

/-- Splits the whole part of a number from the characters after it: no zero comes before another
digit. -/
def wholePart? (cs : List Char) : Option (List Char × List Char) :=
  match cs with
  | '0' :: rest => some (['0'], rest)
  | c :: _ => if c.isDigit then some (digitRun cs) else none
  | [] => none

/-- Splits a point and the digits after it from the characters after them. -/
def fractionPart (cs : List Char) : List Char × List Char :=
  match cs with
  | '.' :: rest =>
    match digitRun rest with
    | ([], _) => ([], cs)
    | (ds, rest) => (ds, rest)
  | _ => ([], cs)

/-- Splits an exponent with at least one digit from the characters after it. -/
def exponentPart (cs : List Char) : Option Int × List Char :=
  let signed (negative : Bool) (rest : List Char) : Option Int × List Char :=
    match digitRun rest with
    | ([], _) => (none, cs)
    | (ds, rest) =>
      let n : Int := digitsValue ds
      (some (if negative then -n else n), rest)
  match cs with
  | e :: '-' :: rest => if e == 'e' || e == 'E' then signed true rest else (none, cs)
  | e :: '+' :: rest => if e == 'e' || e == 'E' then signed false rest else (none, cs)
  | e :: rest => if e == 'e' || e == 'E' then signed false rest else (none, cs)
  | [] => (none, cs)

/-- Reads a number. It is an integer when it has neither a fraction nor an exponent. -/
def number (cs : List Char) : Except Failure (Scalar × List Char) :=
  let (negative, unsigned) := match cs with
    | '-' :: rest => (true, rest)
    | _ => (false, cs)
  match wholePart? unsigned with
  | none => .error ⟨.expectingValue, cs⟩
  | some (whole, rest) =>
    let (fraction, rest) := fractionPart rest
    let (exponent, rest) := exponentPart rest
    if fraction.isEmpty && exponent.isNone then
      match Numeral.integer 10 (if negative then '-' :: whole else whole) with
      | .ok n => .ok (.int n, rest)
      | .error f => .error ⟨.numeral f, cs⟩
    else
      let x := Binary64.ofDecimal negative (digitsValue (whole ++ fraction))
        (exponent.getD 0 - fraction.length)
      .ok (.num x, rest)

/-- The named values. -/
def named? : List Char → Option (Scalar × List Char)
  | 'n' :: 'u' :: 'l' :: 'l' :: rest => some (.null, rest)
  | 't' :: 'r' :: 'u' :: 'e' :: rest => some (.bool true, rest)
  | 'f' :: 'a' :: 'l' :: 's' :: 'e' :: rest => some (.bool false, rest)
  | 'N' :: 'a' :: 'N' :: rest => some (.num .nan, rest)
  | 'I' :: 'n' :: 'f' :: 'i' :: 'n' :: 'i' :: 't' :: 'y' :: rest =>
    some (.num (.infinity false), rest)
  | '-' :: 'I' :: 'n' :: 'f' :: 'i' :: 'n' :: 'i' :: 't' :: 'y' :: rest =>
    some (.num (.infinity true), rest)
  | _ => none

mutual

/-- Reads one value that begins with the first character. -/
def value : Nat → List Char → Except Failure (Value × List Char)
  | 0, cs => .error ⟨.expectingValue, cs⟩
  | fuel + 1, cs =>
    match cs with
    | '"' :: rest => do
      let (s, rest) ← text rest
      return (.str s, rest)
    | '[' :: rest =>
      match skipGap rest with
      | ']' :: rest => .ok (.list [], rest)
      | rest => items fuel [] rest
    | '\x7b' :: rest =>
      match skipGap rest with
      | '\x7d' :: rest => .ok (.map [], rest)
      | rest => fields fuel [] rest
    | _ => do
      let (s, rest) ← match named? cs with
        | some named => pure named
        | none => number cs
      return (.scalar s, rest)

/-- Reads the items of a list, of which those in `acc` are read already, last first. -/
def items : Nat → List Value → List Char → Except Failure (Value × List Char)
  | 0, _, cs => .error ⟨.expectingValue, cs⟩
  | fuel + 1, acc, cs => do
    let (v, rest) ← value fuel cs
    match skipGap rest with
    | ']' :: rest => return (.list (v :: acc).reverse, rest)
    | ',' :: rest => items fuel (v :: acc) (skipGap rest)
    | rest => .error ⟨.expectingComma, rest⟩

/-- Reads the entries of a mapping after those in `acc`. -/
def fields : Nat → Entries → List Char → Except Failure (Value × List Char)
  | 0, _, cs => .error ⟨.expectingName, cs⟩
  | fuel + 1, acc, cs =>
    match cs with
    | '"' :: rest => do
      let (name, rest) ← text rest
      match skipGap rest with
      | ':' :: rest =>
        let (v, rest) ← value fuel (skipGap rest)
        let acc := acc.insert (.str name) v
        match skipGap rest with
        | '\x7d' :: rest => return (.map acc, rest)
        | ',' :: rest => fields fuel acc (skipGap rest)
        | rest => .error ⟨.expectingComma, rest⟩
      | rest => .error ⟨.expectingColon, rest⟩
    | _ => .error ⟨.expectingName, cs⟩

end

def readChars (cs : List Char) : Except Failure Value := do
  if cs.head? == some '\uFEFF' then throw ⟨.byteOrderMark, cs⟩
  let (v, rest) ← value (2 * cs.length + 2) (skipGap cs)
  match skipGap rest with
  | [] => return v
  | rest => throw ⟨.extraData, rest⟩

/-- The wording of a failure in a text: the fault, then line, column and offset of its place unless
the text is in order. -/
def Failure.message (whole : List Char) (f : Failure) : String :=
  let offset := whole.length - f.rest.length
  let before := whole.take offset
  let line := before.count '\n' + 1
  let column := (before.reverse.takeWhile (· != '\n')).length + 1
  match f.fault with
  | .numeral n => n.message
  | fault => s!"{fault.message}: line {line} column {column} (char {offset})"

/-- Reads a text; a failure is given by its wording. -/
def read (s : String) : Except String Value :=
  (readChars s.toList).mapError (Failure.message s.toList)

end TaggedSuite.Json
