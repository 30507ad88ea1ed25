/-!
# Halves of characters

An escape with four digits cannot hold the code of a character beyond the first 65536. Two escapes
in a row write such a character, each with a half of its code. A half that stands alone is no
character and is read as the replacement character.
-/
namespace TaggedSuite.Text

/-- The character with a code, or the replacement character if there is none. -/
def characterOf (code : Nat) : Char := if code.isValidChar then Char.ofNat code else '\uFFFD'

/-- Whether the number is the first half of a code. -/
def isFirstHalf (n : Nat) : Bool := 0xD800 ≤ n && n < 0xDC00

/-- Whether the number is the second half of a code. -/
def isSecondHalf (n : Nat) : Bool := 0xDC00 ≤ n && n < 0xE000

/-- The character whose code consists of two halves. -/
def joinHalves (first second : Nat) : Char :=
  Char.ofNat (0x10000 + (first - 0xD800) * 0x400 + (second - 0xDC00))

end TaggedSuite.Text
