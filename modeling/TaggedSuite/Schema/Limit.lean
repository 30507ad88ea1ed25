import TaggedSuite.Value.Printer

/-!
# Limits

A schema can ask that a number keeps to a bound or is a multiple of another one, and that a text, a
list or a mapping has neither too few nor too many parts. Only values of the kind that is spoken of
can break a limit. Some numbers cannot be divided, and then there is no verdict.
-/
namespace TaggedSuite

/-- Why a value is neither valid nor invalid. -/
inductive CheckFault where
  /-- A message would show an integer with too many digits. -/
  | unwritable
  /-- An integer is too large for a floating-point number. -/
  | tooLarge
  /-- An infinite number has no fraction. -/
  | infinite
  /-- A quotient is no number. -/
  | notNumber
  deriving DecidableEq, Repr

def CheckFault.message : CheckFault → String
  | unwritable => Numeral.unwritableText
  | tooLarge => "int too large to convert to float"
  | infinite => "cannot convert Infinity to integer ratio"
  | notNumber => "cannot convert float NaN to integer"

/-- Order of two numbers. Nothing else is ordered. -/
def Scalar.compareNumber? : Scalar → Scalar → Option Ordering
  | .int a, .int b => some (compare a b)
  | .int a, .num b => (b.compareInt? a).map Ordering.swap
  | .num a, .int b => a.compareInt? b
  | .num a, .num b => a.compare? b
  | _, _ => none

/-- The ways in which a number is held against another one. -/
inductive Bound where
  | minimum
  | maximum
  | exclusiveMinimum
  | exclusiveMaximum
  deriving DecidableEq, Repr

namespace Bound

/-- Whether the order of a number and the limit breaks the bound. -/
def isBroken : Bound → Ordering → Bool
  | minimum, o => o == .lt
  | maximum, o => o == .gt
  | exclusiveMinimum, o => o != .gt
  | exclusiveMaximum, o => o != .lt

/-- What is wrong with a number that breaks the bound. -/
def complaint : Bound → String
  | minimum => "is less than the minimum of"
  | maximum => "is greater than the maximum of"
  | exclusiveMinimum => "is less than or equal to the minimum of"
  | exclusiveMaximum => "is greater than or equal to the maximum of"

/-- Whether a scalar breaks the bound. -/
def refuses (b : Bound) (limit s : Scalar) : Bool := (s.compareNumber? limit).any b.isBroken

/-- How messages tell of a scalar that breaks the bound. -/
def text? (b : Bound) (limit s : Scalar) : Option String :=
  return s!"{← s.shown?} {b.complaint} {← limit.shown?}"

end Bound

namespace Binary64

/-- How many times a number has another one, which is not zero, rounded. The sign of a zero does not
matter here. -/
def quotient (x y : Binary64) : Binary64 :=
  match x.classify, y.classify with
  | .nan, _ | _, .nan | .infinite _, .infinite _ => nan
  | .infinite a, .finite b .. => infinity (a != b)
  | .finite .., .infinite _ => ofInt 0
  | .finite a .., .finite b .. =>
    match x.toRatio?, y.toRatio? with
    | some (m, d), some (n, e) => ofRatio (a != b) (m * e).natAbs (n * d).natAbs
    | _, _ => nan

/-- Whether a number, of which the fraction is also given, is the step a whole number of times. The
quotient is rounded before this is asked, unless it is too large. -/
def isMultiple (step x : Binary64) (ratio? : Option (Int × Nat)) : Except CheckFault Bool :=
  let q := x.quotient step
  match q.classify, ratio?, step.toRatio? with
  | .nan, _, _ => .error .notNumber
  | .finite .., _, _ => .ok q.toInt?.isSome
  | .infinite _, some (m, d), some (n, e) => .ok (m * e % (n * d) == 0)
  | .infinite _, _, _ => .error .infinite

end Binary64

/-- The floating-point number nearest to an integer, if it is not too large. -/
def Scalar.numberOf (i : Int) : Except CheckFault Binary64 :=
  match (Binary64.ofInt i).classify with
  | .infinite _ => .error .tooLarge
  | _ => .ok (.ofInt i)

/-- Whether a number is a whole number of times the step. It does not matter for anything else. -/
def Scalar.isMultiple (step s : Scalar) : Except CheckFault Bool :=
  match step, s with
  | .int n, .int i => .ok (i % n == 0)
  | .num y, .int i => do y.isMultiple (← numberOf i) (some (i, 1))
  | .num y, .num x => y.isMultiple x x.toRatio?
  | .int n, .num x => do
    let y ← numberOf n
    match x.toRatio?, y.toRatio? with
    | some (m, d), some (k, e) => return m * e % (k * d) == 0
    | _, _ => return false
  | _, _ => .ok true

inductive Counted where
  | characters
  | items
  | entries
  deriving DecidableEq, Repr

/-- The number of parts of a value, if it has such parts. -/
def Counted.count? : Counted → Value → Option Nat
  | characters, .scalar (.str s) => some s.length
  | items, .list vs => some vs.length
  | entries, .map es => some es.length
  | _, _ => none

structure CountLimit where
  counted : Counted
  isLeast : Bool
  limit : Scalar
  deriving DecidableEq, Repr

namespace CountLimit

/-- Whether the limit is the given number. -/
def isLimit (l : CountLimit) (n : Int) : Bool := l.limit.compareNumber? (.int n) == some .eq

/-- What is wrong with a value that has too few or too many parts. -/
def complaint (l : CountLimit) : String :=
  if l.isLeast && l.isLimit 1 then "should be non-empty"
  else if !l.isLeast && l.isLimit 0 then "is expected to be empty"
  else match l.isLeast, l.counted with
    | true, .entries => "does not have enough properties"
    | true, _ => "is too short"
    | false, .entries => "has too many properties"
    | false, _ => "is too long"

/-- Whether a value has too few or too many parts. -/
def refuses (l : CountLimit) (v : Value) : Bool :=
  let bound : Bound := if l.isLeast then .minimum else .maximum
  (l.counted.count? v).any fun n => bound.refuses l.limit (.int n)

/-- How messages tell of a value that has too few or too many parts. -/
def text? (l : CountLimit) (v : Value) : Option String := return s!"{← v.shown?} {l.complaint}"

end CountLimit

end TaggedSuite
