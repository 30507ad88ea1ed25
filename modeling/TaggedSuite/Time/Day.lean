/-!
# Days

A day is a date of the calendar in a year from 1 to 9999.
-/
namespace TaggedSuite

def isLeapYear (year : Nat) : Bool := year % 4 = 0 && (year % 100 ≠ 0 || year % 400 = 0)

def daysInMonth (year month : Nat) : Nat :=
  if month = 2 then if isLeapYear year then 29 else 28
  else if month = 4 ∨ month = 6 ∨ month = 9 ∨ month = 11 then 30
  else 31

structure Day where
  year : Nat
  month : Nat
  day : Nat
  year_mem : 1 ≤ year ∧ year ≤ 9999
  month_mem : 1 ≤ month ∧ month ≤ 12
  day_mem : 1 ≤ day ∧ day ≤ daysInMonth year month
  deriving DecidableEq, Repr

/-- Why numbers make no time. -/
inductive CalendarError where
  | year (year : Nat)
  | month
  | day
  | hour
  | minute
  | second
  /-- The time is a day or more away from that of the first meridian. -/
  | offset (minutes : Int)
  deriving DecidableEq, Repr

namespace Day

/-- The date with the numbers. The year is looked at first, and the day last. -/
def ofNumbers (year month day : Nat) : Except CalendarError Day :=
  if hy : 1 ≤ year ∧ year ≤ 9999 then
    if hm : 1 ≤ month ∧ month ≤ 12 then
      if hd : 1 ≤ day ∧ day ≤ daysInMonth year month then .ok ⟨year, month, day, hy, hm, hd⟩
      else .error .day
    else .error .month
  else .error (.year year)

/-- The next date; none after the last one. -/
def next? (d : Day) : Option Day :=
  if d.day < daysInMonth d.year d.month then (ofNumbers d.year d.month (d.day + 1)).toOption
  else if d.month < 12 then (ofNumbers d.year (d.month + 1) 1).toOption
  else (ofNumbers (d.year + 1) 1 1).toOption

/-- The date before; none before the first one. -/
def previous? (d : Day) : Option Day :=
  if 1 < d.day then (ofNumbers d.year d.month (d.day - 1)).toOption
  else if 1 < d.month then
    (ofNumbers d.year (d.month - 1) (daysInMonth d.year (d.month - 1))).toOption
  else (ofNumbers (d.year - 1) 12 31).toOption

end Day

end TaggedSuite
