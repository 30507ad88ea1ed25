import TaggedSuite.Time.Moment

/-!
# Written days and moments

A day is written as three numbers between hyphens. A moment adds a time behind a letter or blanks:
hours, minutes and seconds between colons, a fraction behind a point, and the offset of the time.
-/
namespace TaggedSuite

/-- How far a written time is ahead of that of the first meridian. -/
structure WrittenOffset where
  isBehind : Bool
  hours : Nat
  minutes : Nat
  deriving DecidableEq, Repr

structure WrittenTime where
  hour : Nat
  minute : Nat
  second : Nat
  /-- The digits behind the point. -/
  fraction : List Char
  offset? : Option WrittenOffset
  deriving DecidableEq, Repr

structure TimeStamp where
  year : Nat
  month : Nat
  day : Nat
  /-- Month and day are both written with two digits. -/
  isPadded : Bool
  time? : Option WrittenTime
  deriving DecidableEq, Repr

namespace TimeStamp

/-- The number that decimal digits write. -/
def numberOf (digits : List Char) : Nat :=
  digits.foldl (fun n c => 10 * n + (c.toNat - '0'.toNat)) 0

/-- Splits off as many digits as there are up to the greater number, which have to be as many as the
lesser one. -/
def digits? (least most : Nat) (cs : List Char) : Option (List Char × List Char) :=
  let digits := (cs.take most).takeWhile Char.isDigit
  if least ≤ digits.length then some (digits, cs.drop digits.length) else none

/-- What follows the character. -/
def after? (c : Char) (cs : List Char) : Option (List Char) :=
  if cs.head? = some c then some cs.tail else none

/-- Whether the character is a space or a tab. -/
def isGap (c : Char) : Bool := c == ' ' || c == '\t'

/-- What follows the mark between a day and its time. -/
def timeMark? : List Char → Option (List Char)
  | 'T' :: cs | 't' :: cs => some cs
  | c :: cs => if isGap c then some (cs.dropWhile isGap) else none
  | [] => none

/-- Reads an offset up to the end. A letter stands for none at all. -/
def readOffset? (cs : List Char) : Option WrittenOffset := do
  match cs with
  | ['Z'] => return ⟨false, 0, 0⟩
  | sign :: cs => do
    if sign ≠ '+' ∧ sign ≠ '-' then none
    let (hours, cs) ← digits? 1 2 cs
    if cs.isEmpty then return ⟨sign == '-', numberOf hours, 0⟩
    let (minutes, cs) ← digits? 2 2 (← after? ':' cs)
    if cs.isEmpty then return ⟨sign == '-', numberOf hours, numberOf minutes⟩ else none
  | [] => none

def readTime? (cs : List Char) : Option WrittenTime := do
  let (hour, cs) ← digits? 1 2 cs
  let (minute, cs) ← digits? 2 2 (← after? ':' cs)
  let (second, cs) ← digits? 2 2 (← after? ':' cs)
  let (fraction, cs) := match cs with
    | '.' :: cs => (cs.takeWhile Char.isDigit, cs.dropWhile Char.isDigit)
    | cs => ([], cs)
  let numbers (offset? : Option WrittenOffset) : WrittenTime :=
    ⟨numberOf hour, numberOf minute, numberOf second, fraction, offset?⟩
  if cs.isEmpty then return numbers none
  else return numbers (some (← readOffset? (cs.dropWhile isGap)))

/-- Reads a day or a moment. -/
def ofChars? (cs : List Char) : Option TimeStamp := do
  let (year, cs) ← digits? 4 4 cs
  let (month, cs) ← digits? 1 2 (← after? '-' cs)
  let (day, cs) ← digits? 1 2 (← after? '-' cs)
  let isPadded := month.length = 2 && day.length = 2
  let numbers (time? : Option WrittenTime) : TimeStamp :=
    ⟨numberOf year, numberOf month, numberOf day, isPadded, time?⟩
  if cs.isEmpty then return numbers none
  else return numbers (some (← readTime? (← timeMark? cs)))

/-- The millionths that the digits of a fraction write; further digits are cut off. -/
def microOf (fraction : List Char) : Nat :=
  let digits := fraction.take 6
  numberOf (digits ++ List.replicate (6 - digits.length) '0')

def minutesOf (o : WrittenOffset) : Int :=
  let minutes : Int := (60 * o.hours + o.minutes : Nat)
  if o.isBehind then -minutes else minutes

def toDay (s : TimeStamp) : Except CalendarError Day := Day.ofNumbers s.year s.month s.day

/-- The moment that is written, with its time. -/
def toMoment (s : TimeStamp) (t : WrittenTime) : Except CalendarError Moment :=
  Moment.ofNumbers s.year s.month s.day t.hour t.minute t.second (microOf t.fraction)
    (t.offset?.map minutesOf)

end TimeStamp

end TaggedSuite
