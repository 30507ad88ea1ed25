import TaggedSuite.Time.Day

/-!
# Moments

A moment is a day with a time of day, down to millionths of a second. It may say by how much its
time is ahead of that of the first meridian.
-/
namespace TaggedSuite

def minutesPerDay : Nat := 1440

structure Moment where
  date : Day
  hour : Nat
  minute : Nat
  second : Nat
  micro : Nat
  /-- The minutes by which the time is ahead of that of the first meridian. -/
  offset? : Option Int
  deriving DecidableEq, Repr

namespace Moment

/-- Refuses an offset of a day or more. -/
def checkOffset (minutes : Int) : Except CalendarError Unit :=
  if minutes.natAbs < minutesPerDay then .ok () else .error (.offset minutes)

/-- The moment with the numbers. The offset is looked at first, then the date, then the time. -/
def ofNumbers (year month day hour minute second micro : Nat) (offset? : Option Int) :
    Except CalendarError Moment := do
  offset?.forM checkOffset
  let date ← Day.ofNumbers year month day
  if 24 ≤ hour then throw .hour
  if 60 ≤ minute then throw .minute
  if 60 ≤ second then throw .second
  return ⟨date, hour, minute, second, micro, offset?⟩

/-- The same moment in the time of the first meridian, if it is known to be one. -/
def atMeridian (m : Moment) : Moment :=
  match m.offset? with
  | none => m
  | some offset =>
    let minutes : Int := (60 * m.hour + m.minute : Nat) - offset
    let ofDay := (minutes % minutesPerDay).toNat
    let date := if minutes < 0 then m.date.previous?.getD m.date
      else if minutesPerDay ≤ minutes then m.date.next?.getD m.date
      else m.date
    ⟨date, ofDay / 60, ofDay % 60, m.second, m.micro, some 0⟩

end Moment

end TaggedSuite
