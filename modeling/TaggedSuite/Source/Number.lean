/-!
# Numbers in a test module

Only the shape of a number matters: its digits may be grouped by single underscores, an integer
other than zero does not begin with a zero, and no letter follows except those of certain keywords.
-/
namespace TaggedSuite.Source

/-- Whether the character may stand in a name, by its bytes alone. -/
def isNameByte (c : Char) : Bool := c.isAlphanum || c == '_' || 128 ≤ c.toNat

/-- Whether the character may begin a name, by its bytes alone. -/
def isNameStartByte (c : Char) : Bool := c.isAlpha || c == '_' || 128 ≤ c.toNat

/-- The keywords that may follow a number without a blank. -/
def numberFollowers : List String := ["and", "else", "for", "if", "in", "is", "or", "not"]

/-- Whether a number may end before these characters. -/
def endsNumber (rest : List Char) : Bool :=
  match rest with
  | [] => true
  | c :: _ => !isNameByte c || numberFollowers.any fun k => k.toList.isPrefixOf rest

/-- A character satisfying the test, or an underscore with such a character after it. -/
def digitGroupsTail (digit : Char → Bool) : List Char → Option (List Char)
  | [] => some []
  | '_' :: c :: rest => if digit c then digitGroupsTail digit rest else none
  | '_' :: [] => none
  | c :: rest => if digit c then digitGroupsTail digit rest else some (c :: rest)

/-- What follows one or more digits, grouped by single underscores. -/
def digitGroups (digit : Char → Bool) : List Char → Option (List Char)
  | c :: rest => if digit c then digitGroupsTail digit rest else none
  | [] => none

/-- What follows the digits after a letter for another base; an underscore may come first. -/
def basedDigits (digit : Char → Bool) (rest : List Char) : Option (List Char) := do
  let rest ← digitGroups digit (if rest.head? == some '_' then rest.tail else rest)
  if endsNumber rest && !(rest.head?.any Char.isDigit) then some rest else none

/-- What follows a number whose last digits are read. An imaginary number ends in a letter. -/
def numberSuffix (rest : List Char) : Option (Bool × List Char) :=
  match rest with
  | c :: after =>
    if c == 'j' || c == 'J' then
      if endsNumber after then some (true, after) else none
    else if endsNumber rest then some (false, rest) else none
  | [] => some (false, [])

/-- What follows the exponent of a number, if one stands in front. -/
def numberExponent (rest : List Char) : Option (Bool × List Char) :=
  match rest with
  | e :: after =>
    if e == 'e' || e == 'E' then
      match after with
      | s :: digits =>
        if s == '+' || s == '-' then digitGroups Char.isDigit digits >>= numberSuffix
        else if s.isDigit then digitGroups Char.isDigit after >>= numberSuffix
        else if endsNumber rest then some (false, rest) else none
      | [] => none
    else numberSuffix rest
  | [] => some (false, [])

/-- What follows the fraction and the exponent of a number. The point is read already. -/
def numberFraction (rest : List Char) : Option (Bool × List Char) :=
  if rest.head?.any Char.isDigit then digitGroups Char.isDigit rest >>= numberExponent
  else numberExponent rest

/-- What follows the whole part of a number. -/
def numberAfterWhole (rest : List Char) : Option (Bool × List Char) :=
  match rest with
  | '.' :: after => numberFraction after
  | _ => numberExponent rest

/-- Whether the digits in front are all zeros. -/
def isZeroRun (digits : List Char) : Bool := digits.all fun c => c == '0' || c == '_'

def isBinaryDigit (c : Char) : Bool := c == '0' || c == '1'

def isOctalDigit (c : Char) : Bool := '0' ≤ c && c ≤ '7'

def isHexDigit (c : Char) : Bool := c.isDigit || ('a' ≤ c && c ≤ 'f') || ('A' ≤ c && c ≤ 'F')

/-- The greatest number of digits that a decimal integer may have. -/
def maxIntegerDigits : Nat := 4300

/-- Whether the digits, with what follows them, may stand as an integer. There may be too many of
them, unless they are zeros. Digits after a leading zero make no integer; before a keyword that
begins like an exponent they are read as one that is missing. -/
def isDecimalInteger (digits rest : List Char) : Bool :=
  if digits.head? == some '0' then isZeroRun digits || rest.head? == some 'e'
  else digits.countP Char.isDigit ≤ maxIntegerDigits

/-- A decimal number: whether it is imaginary, and what follows it. Digits that make no integer may
begin a fraction, an exponent or an imaginary number. -/
def decimalNumber (cs : List Char) : Option (Bool × List Char) := do
  let rest ← digitGroups Char.isDigit cs
  let digits := cs.take (cs.length - rest.length)
  let (imaginary, after) ← numberAfterWhole rest
  let isPlain := !imaginary && after.length == rest.length
  if isPlain && !isDecimalInteger digits rest then none
  else some (imaginary, after)

/-- A number from its first digit or point on: whether it is imaginary, and what follows it. -/
def number (cs : List Char) : Option (Bool × List Char) :=
  match cs with
  | '.' :: rest => numberFraction rest
  | '0' :: c :: rest =>
    if c == 'x' || c == 'X' then (basedDigits isHexDigit rest).map (false, ·)
    else if c == 'o' || c == 'O' then (basedDigits isOctalDigit rest).map (false, ·)
    else if c == 'b' || c == 'B' then (basedDigits isBinaryDigit rest).map (false, ·)
    else decimalNumber cs
  | _ => decimalNumber cs

end TaggedSuite.Source
