import TaggedSuite.Number.Binary64

/-!
# The fewest digits that read back

The text of a number has as few decimal digits as possible among those that are read back as the
same number, and of those the digits nearest to it. For each count of digits the two neighbours of
the number on that decimal grid are tried, in exact arithmetic.
-/
namespace TaggedSuite.Binary64

/-- A decimal text without its point: `digits * 10 ^ exponent`. -/
structure Decimal where
  digits : Nat
  exponent : Int
  deriving DecidableEq, Repr

/-- A positive number with the numbers halfway to its neighbours, in quarters of its last bit:
the unit is `2 ^ unit`. The two ends belong to the number when its mantissa is even. -/
structure Interval where
  low : Nat
  mid : Nat
  high : Nat
  unit : Int
  closed : Bool

/-- The reals that are rounded to `mantissa * 2 ^ exponent`. Just above a power of two the numbers
below are twice as dense. -/
def interval (mantissa : Nat) (exponent : Int) : Interval where
  low := 4 * mantissa - if mantissa = Nat.pow 2 52 ∧ leastExponent < exponent then 1 else 2
  mid := 4 * mantissa
  high := 4 * mantissa + 2
  unit := exponent - 2
  closed := mantissa % 2 = 0

/-- `n * 2 ^ unit` and `d * 10 ^ place`, brought to one integer scale. -/
def commonScale (n : Nat) (unit : Int) (d : Nat) (place : Int) : Nat × Nat :=
  (n * Nat.pow 2 unit.toNat * Nat.pow 10 (-place).toNat,
    d * Nat.pow 10 place.toNat * Nat.pow 2 (-unit).toNat)

/-- Whether `digits * 10 ^ place` lies in the interval. -/
def Interval.contains (r : Interval) (d : Decimal) : Bool :=
  let (low, x) := commonScale r.low r.unit d.digits d.exponent
  let (high, y) := commonScale r.high r.unit d.digits d.exponent
  if r.closed then low ≤ x && y ≤ high else low < x && y < high

/-- How far `digits * 10 ^ place` is from the middle, on a scale that depends on the place alone. -/
def Interval.distance (r : Interval) (d : Decimal) : Nat :=
  let (mid, x) := commonScale r.mid r.unit d.digits d.exponent
  (mid - x) + (x - mid)

/-- The multiple of `10 ^ place` at or below the middle. -/
def Interval.below (r : Interval) (place : Int) : Decimal :=
  let (mid, one) := commonScale r.mid r.unit 1 place
  ⟨mid / one, place⟩

/-- The nearer of the two neighbours on the grid of `10 ^ place` that lie in the interval. -/
def Interval.atPlace (r : Interval) (place : Int) : Option Decimal :=
  let down := r.below place
  let up : Decimal := ⟨down.digits + 1, place⟩
  match r.contains down, r.contains up with
  | true, true =>
    if r.distance down < r.distance up then some down
    else if r.distance up < r.distance down then some up
    else if down.digits % 2 = 0 then some down else some up
  | true, false => some down
  | false, true => some up
  | false, false => none

/-- The number of decimal places before the point: the least `k` with the middle below `10 ^ k`. -/
def Interval.magnitude (r : Interval) : Int :=
  let bits : Int := r.mid.log2 + r.unit
  let guess : Int := bits * 1233 / 4096
  let belowPower (k : Int) : Bool :=
    let (mid, one) := commonScale r.mid r.unit 1 k
    mid < one
  if belowPower guess then guess
  else if belowPower (guess + 1) then guess + 1
  else guess + 2

/-- Tries one digit more at a time. -/
def Interval.search (r : Interval) (magnitude : Int) : Nat → Nat → Decimal
  | 0, digits => r.below (magnitude - digits)
  | fuel + 1, digits =>
    match r.atPlace (magnitude - digits) with
    | some d => d
    | none => r.search magnitude fuel (digits + 1)

/-- The shortest decimal that reads back as a positive finite number. Seventeen digits always do. -/
def shortest (mantissa : Nat) (exponent : Int) : Decimal :=
  let r := interval mantissa exponent
  r.search r.magnitude 17 1

end TaggedSuite.Binary64
