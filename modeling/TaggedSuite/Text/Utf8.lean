import TaggedSuite.Text.Quoted

/-!
# Text as bytes

A character is written as one to four bytes, of which the first one tells how many follow. Bytes
that write no text are refused, with the place of the first fault.
-/
namespace TaggedSuite.Text

inductive DecodingReason where
  /-- No character begins with the byte. -/
  | start
  /-- A byte does not go on with the character that was begun. -/
  | continuation
  /-- The bytes end inside of a character. -/
  | ending
  deriving DecidableEq, Repr

/-- A fault in bytes: what is wrong, the number of bytes before it, and the bytes at fault. -/
structure DecodingFault where
  reason : DecodingReason
  position : Nat
  bytes : List UInt8
  deriving DecidableEq, Repr

def DecodingReason.message : DecodingReason → String
  | start => "invalid start byte"
  | continuation => "invalid continuation byte"
  | ending => "unexpected end of data"

/-- The wording of a fault: the byte and its place, or the first and the last place. -/
def DecodingFault.message (f : DecodingFault) : String :=
  let place := match f.bytes with
    | [b] => s!"byte 0x{String.ofList (hexDigits 2 b.toNat)} in position {f.position}"
    | bs => s!"bytes in position {f.position}-{f.position + bs.length - 1}"
  s!"'utf-8' codec can't decode {place}: {f.reason.message}"

/-- The number of bytes that follow a first one. -/
def followers? (first : Nat) : Option Nat :=
  if first < 0x80 then some 0
  else if 0xC2 ≤ first ∧ first < 0xE0 then some 1
  else if 0xE0 ≤ first ∧ first < 0xF0 then some 2
  else if 0xF0 ≤ first ∧ first < 0xF5 then some 3
  else none

/-- The range of a second byte. It leaves out longer spellings, surrogates and codes beyond the last
one. -/
def secondRange (first : Nat) : Nat × Nat :=
  if first = 0xE0 then (0xA0, 0xBF)
  else if first = 0xED then (0x80, 0x9F)
  else if first = 0xF0 then (0x90, 0xBF)
  else if first = 0xF4 then (0x80, 0x8F)
  else (0x80, 0xBF)

/-- Reads a number of further bytes of a character, the first of which lies in a range. A fault
comes with the number of bytes that were read. -/
def readFollowers (range : Nat × Nat) : Nat → Nat → Nat → List UInt8 →
    Except (DecodingReason × Nat) (Nat × List UInt8)
  | 0, code, _, rest => .ok (code, rest)
  | _ + 1, _, taken, [] => .error (.ending, taken)
  | n + 1, code, taken, b :: rest =>
    if range.1 ≤ b.toNat ∧ b.toNat ≤ range.2 then
      readFollowers (0x80, 0xBF) n (64 * code + b.toNat % 64) (taken + 1) rest
    else .error (.continuation, taken)

/-- The part of a character's code that its first byte holds. -/
def firstBits (first followers : Nat) : Nat :=
  match followers with
  | 0 => first
  | 1 => first % 32
  | 2 => first % 16
  | _ => first % 8

/-- Reads a character. A fault comes with the number of bytes at fault. -/
def readCharacter (first : UInt8) (rest : List UInt8) :
    Except (DecodingReason × Nat) (Char × List UInt8) :=
  match followers? first.toNat with
  | none => .error (.start, 1)
  | some n =>
    (readFollowers (secondRange first.toNat) n (firstBits first.toNat n) 1 rest).map
      fun (code, rest) => (Char.ofNat code, rest)

/-- Reads characters behind a number of bytes. The first number bounds them. -/
def decodeFrom : Nat → Nat → List UInt8 → Except DecodingFault (List Char)
  | 0, _, _ | _, _, [] => .ok []
  | n + 1, position, b :: rest =>
    match readCharacter b rest with
    | .error (reason, taken) => .error ⟨reason, position, (b :: rest).take taken⟩
    | .ok (c, after) => do
      return c :: (← decodeFrom n (position + c.utf8Size) after)

/-- The text that bytes write. -/
def decode (bytes : List UInt8) : Except DecodingFault String := do
  return String.ofList (← decodeFrom bytes.length 0 bytes)

end TaggedSuite.Text
