import TaggedSuite.Number.Binary64
import TaggedSuite.Text.Blank
import TaggedSuite.Text.Digit
import TaggedSuite.Text.Quoted

/-!
# Numerals

A numeral writes an integer in a base or a decimal number. It may have a sign and whitespace around
it, and its digits may be those of any script. What is not a numeral is refused.
-/
namespace TaggedSuite.Numeral

/-- Why characters are no numeral. -/
inductive Fault where
  | notInteger (base : Nat) (text : String)
  | notDecimal (text : String)
  /-- There are more digits than can be converted from a base that is no power of two. -/
  | tooManyDigits (count : Nat)
  deriving DecidableEq, Repr

/-- The greatest number of digits that are converted, from a text or to one. -/
def maxDigits : Nat := 4300

/-- The text of an integer. One with more digits than are converted has none. -/
def write? (i : Int) : Option String :=
  if (Nat.toDigits 10 i.natAbs).length ≤ maxDigits then some (toString i) else none

/-- What is said of an integer without a text. -/
def unwritableText : String :=
  s!"Exceeds the limit ({maxDigits} digits) for integer string conversion; " ++
    "use sys.set_int_max_str_digits() to increase the limit"

/-- The most characters of a text that messages show. -/
def maxShown : Nat := 200

def Fault.message : Fault → String
  | notInteger base text =>
    let shown := String.ofList ((Text.quotedChars text.toList).take maxShown)
    s!"invalid literal for int() with base {base}: {shown}"
  | notDecimal text => s!"could not convert string to float: {Text.quoted text}"
  | tooManyDigits count =>
    s!"Exceeds the limit ({maxDigits} digits) for integer string conversion: " ++
      s!"value has {count} digits; use sys.set_int_max_str_digits() to increase the limit"

/-- Whether the character is whitespace around a numeral in ASCII. -/
def isGap (c : Char) : Bool := c == ' ' || ('\t' ≤ c && c ≤ '\r')

/-- A character as one of ASCII: a digit of any script is that digit, whitespace is a space, and
nothing else has a counterpart. -/
def plainChar (c : Char) : Char :=
  if c.toNat < 127 then c
  else if Text.isBlank c then ' '
  else match Text.zeros.find? fun z => z ≤ c.toNat && c.toNat < z + 10 with
    | some z => Char.ofNat ('0'.toNat + (c.toNat - z))
    | none => '?'

/-- The characters as ones of ASCII, without whitespace around them. -/
def plainChars (cs : List Char) : List Char :=
  let cs := (cs.map plainChar).dropWhile isGap
  (cs.reverse.dropWhile isGap).reverse

/-- Splits a sign from what follows it; says whether it is a minus. -/
def splitSign : List Char → Bool × List Char
  | '-' :: rest => (true, rest)
  | '+' :: rest => (false, rest)
  | cs => (false, cs)

/-- The value of a digit in a base of at most sixteen. -/
def digit? (base : Nat) (c : Char) : Option Nat :=
  let value :=
    if c.isDigit then c.toNat - '0'.toNat
    else if 'a' ≤ c ∧ c ≤ 'f' then c.toNat - 'a'.toNat + 10
    else if 'A' ≤ c ∧ c ≤ 'F' then c.toNat - 'A'.toNat + 10
    else base
  if value < base then some value else none

def baseLetter? : Nat → Option Char
  | 2 => some 'b'
  | 8 => some 'o'
  | 16 => some 'x'
  | _ => none

/-- The characters without the mark of the base in front. -/
def dropMark (base : Nat) (cs : List Char) : List Char :=
  match cs with
  | '0' :: c :: rest => if baseLetter? base = some c.toLower then rest else cs
  | _ => cs

/-- The number that digits write in a base. -/
def digitsValue (base : Nat) (digits : List Nat) : Nat := digits.foldl (fun n d => base * n + d) 0

/-- Whether the digits of a base are not limited in number. -/
def isUnlimited (base : Nat) : Bool := (baseLetter? base).isSome

/-- The integer that characters write in a base. -/
def integer (base : Nat) (cs : List Char) : Except Fault Int :=
  let (isNegative, unsigned) := splitSign (plainChars cs)
  let body := dropMark base unsigned
  let digits := (body.map (digit? base)).takeWhile Option.isSome
  if !isUnlimited base ∧ maxDigits < digits.length then .error (.tooManyDigits digits.length)
  else if body.isEmpty ∨ digits.length < body.length then
    .error (.notInteger base (String.ofList cs))
  else
    let n : Int := digitsValue base (digits.filterMap id)
    .ok (if isNegative then -n else n)

/-- The number that decimal digits, with a point and an exponent that may be left out, write. -/
def unsignedDecimal? (isNegative : Bool) (cs : List Char) : Option Binary64 :=
  let whole := cs.takeWhile Char.isDigit
  let rest := cs.dropWhile Char.isDigit
  let (fraction, rest) := match rest with
    | '.' :: rest => (rest.takeWhile Char.isDigit, rest.dropWhile Char.isDigit)
    | rest => ([], rest)
  let value (ds : List Char) : Nat := digitsValue 10 (ds.filterMap (digit? 10))
  let number (e : Int) : Binary64 :=
    .ofDecimal isNegative (value (whole ++ fraction)) (e - fraction.length)
  if whole.isEmpty && fraction.isEmpty then none
  else match rest with
    | [] => some (number 0)
    | e :: rest =>
      let (isSmall, digits) := splitSign rest
      if (e == 'e' || e == 'E') && !digits.isEmpty && digits.all Char.isDigit then
        some (number (if isSmall then -(value digits : Int) else value digits))
      else none

/-- The words for an infinite number. -/
def infinityWords : List String := ["inf", "infinity"]

/-- The number that characters write. Words stand for what digits cannot write. -/
def decimal (cs : List Char) : Except Fault Binary64 :=
  let (isNegative, body) := splitSign (plainChars cs)
  let word := String.ofList (body.map Char.toLower)
  if infinityWords.contains word then .ok (.infinity isNegative)
  else if word = "nan" then .ok .nan
  else match unsignedDecimal? isNegative body with
    | some x => .ok x
    | none => .error (.notDecimal (String.ofList cs))

end TaggedSuite.Numeral
