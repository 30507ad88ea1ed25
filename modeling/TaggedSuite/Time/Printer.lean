import TaggedSuite.Time.Moment

/-!
# The text of days and moments

A day or moment has a plain text, and one that shows it as a part of another value.
-/
namespace TaggedSuite

/-- Digits of a number, padded with zeros on the left to the given width. -/
def paddedNumber (width n : Nat) : String :=
  let digits := Nat.toDigits 10 n
  String.ofList (List.replicate (width - digits.length) '0' ++ digits)

/-- How messages show a number of minutes: as days and seconds, of which only the days can be
negative. -/
def shownMinutes (minutes : Int) : String :=
  let days := minutes / minutesPerDay
  let seconds := minutes % minutesPerDay * 60
  let parts := (if days = 0 then [] else [s!"days={days}"]) ++
    if seconds = 0 then [] else [s!"seconds={seconds}"]
  "datetime.timedelta(" ++ (if parts.isEmpty then "0" else ", ".intercalate parts) ++ ")"

def CalendarError.message : CalendarError → String
  | year n => s!"year {n} is out of range"
  | month => "month must be in 1..12"
  | day => "day is out of range for month"
  | hour => "hour must be in 0..23"
  | minute => "minute must be in 0..59"
  | second => "second must be in 0..59"
  | offset minutes =>
    "offset must be a timedelta strictly between -timedelta(hours=24) and timedelta(hours=24), " ++
      s!"not {shownMinutes minutes}."

namespace Day

/-- The numbers of a date between hyphens. -/
def text (d : Day) : String :=
  s!"{paddedNumber 4 d.year}-{paddedNumber 2 d.month}-{paddedNumber 2 d.day}"

def shown (d : Day) : String := s!"datetime.date({d.year}, {d.month}, {d.day})"

end Day

namespace Moment

/-- The text of an offset: a sign, hours and minutes. -/
def offsetText (minutes : Int) : String :=
  let sign := if minutes < 0 then "-" else "+"
  sign ++ s!"{paddedNumber 2 (minutes.natAbs / 60)}:{paddedNumber 2 (minutes.natAbs % 60)}"

/-- The date and the time, with the millionths only if there are some. -/
def text (m : Moment) : String :=
  let time := s!"{paddedNumber 2 m.hour}:{paddedNumber 2 m.minute}:{paddedNumber 2 m.second}"
  let micro := if m.micro = 0 then "" else s!".{paddedNumber 6 m.micro}"
  s!"{m.date.text} {time}{micro}" ++ (m.offset?.map offsetText).getD ""

/-- How messages show an offset. -/
def shownOffset (minutes : Int) : String :=
  if minutes = 0 then "datetime.timezone.utc"
  else s!"datetime.timezone({shownMinutes minutes})"

/-- How messages show a moment. Millionths and seconds are left out if they are zero. -/
def shown (m : Moment) : String :=
  let fraction := if m.micro ≠ 0 then [m.second, m.micro] else if m.second ≠ 0 then [m.second]
    else []
  let numbers := [m.date.year, m.date.month, m.date.day, m.hour, m.minute] ++ fraction
  let offset := (m.offset?.map fun minutes => s!"tzinfo={shownOffset minutes}").toList
  "datetime.datetime(" ++ ", ".intercalate (numbers.map toString ++ offset) ++ ")"

end Moment

end TaggedSuite
