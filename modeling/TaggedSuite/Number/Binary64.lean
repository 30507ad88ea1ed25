/-!
# Binary floating-point numbers of 64 bits

A number is given by its bits. All arithmetic is exact arithmetic on integers, followed by one
rounding to the nearest number, where a tie goes to the even neighbour.
-/
namespace TaggedSuite

/-- A floating-point number in the 64-bit format: sign, eleven bits of exponent, 52 of fraction. -/
structure Binary64 where
  bits : UInt64
  deriving DecidableEq, Repr, Inhabited

/-- What the bits stand for. A finite number is its sign with `mantissa * 2 ^ exponent`. -/
inductive Binary64.Class where
  | nan
  | infinite (negative : Bool)
  | finite (negative : Bool) (mantissa : Nat) (exponent : Int)
  deriving DecidableEq, Repr

namespace Binary64

/-- The least exponent of a finite number. -/
def leastExponent : Int := -1074

/-- Decodes the three fields of the bits. -/
def classify (x : Binary64) : Class :=
  let n : Nat := x.bits.toNat
  let negative := decide (Nat.pow 2 63 ≤ n)
  let field : Nat := n / Nat.pow 2 52 % Nat.pow 2 11
  let fraction := n % Nat.pow 2 52
  if field = 2047 then
    if fraction = 0 then .infinite negative else .nan
  else if field = 0 then .finite negative fraction leastExponent
  else .finite negative (Nat.pow 2 52 + fraction) (leastExponent + field - 1)

def signBits (negative : Bool) : Nat := if negative then Nat.pow 2 63 else 0

/-- The infinite number of the given sign. -/
def infinity (negative : Bool) : Binary64 := ⟨.ofNat (signBits negative + 2047 * Nat.pow 2 52)⟩

/-- The value that is no number. -/
def nan : Binary64 := ⟨.ofNat (4095 * Nat.pow 2 51)⟩

/-- The quotient rounded to the nearest integer, a tie to the even one. -/
def roundDiv (num den : Nat) : Nat :=
  let low := num / den
  let rest := num % den
  if 2 * rest < den then low
  else if den < 2 * rest then low + 1
  else if low % 2 = 0 then low else low + 1

/-- `num / den` in units of `2 ^ exponent`, as a fraction. -/
def scaled (num den : Nat) (exponent : Int) : Nat × Nat :=
  if exponent < 0 then (num * Nat.pow 2 (-exponent).toNat, den)
  else (num, den * Nat.pow 2 exponent.toNat)

/-- The exponent at which a positive fraction has a mantissa of 53 bits, unless it is too small. -/
def exponentFor (num den : Nat) : Int :=
  let guess : Int := (num.log2 : Int) - den.log2 - 53
  let (a, b) := scaled num den guess
  max (if a / b < Nat.pow 2 53 then guess else guess + 1) leastExponent

/-- The number nearest to the fraction `num / den`, with a sign. A tie goes to the even mantissa,
and a fraction beyond the greatest finite number becomes infinite. -/
def ofRatio (negative : Bool) (num den : Nat) : Binary64 :=
  if num = 0 then ⟨.ofNat (signBits negative)⟩
  else
    let exponent := exponentFor num den
    let (a, b) := scaled num den exponent
    let magnitude := (exponent - leastExponent).toNat * Nat.pow 2 52 + roundDiv a b
    if 2047 * Nat.pow 2 52 ≤ magnitude then infinity negative
    else ⟨.ofNat (signBits negative + magnitude)⟩

/-- The number nearest to an integer. -/
def ofInt (i : Int) : Binary64 := ofRatio (i < 0) i.natAbs 1

/-- The number nearest to `digits * 10 ^ exponent`. The exponent is cut to the range where it makes
a difference before a power is taken. -/
def ofDecimal (negative : Bool) (digits : Nat) (exponent : Int) : Binary64 :=
  let size : Int := Nat.log2 digits / 3 + 1
  if digits = 0 ∨ exponent + size < -400 then ofRatio negative 0 1
  else if 400 < exponent then infinity negative
  else if exponent < 0 then ofRatio negative digits (Nat.pow 10 (-exponent).toNat)
  else ofRatio negative (digits * Nat.pow 10 exponent.toNat) 1

/-- A finite number as a signed fraction. -/
def toRatio? (x : Binary64) : Option (Int × Nat) :=
  match x.classify with
  | .finite negative m e =>
    let size := m * Nat.pow 2 e.toNat
    some (if negative then -(size : Int) else size, Nat.pow 2 (-e).toNat)
  | _ => none

/-- Whether the number is zero, of either sign. -/
def isZero (x : Binary64) : Bool :=
  match x.classify with
  | .finite _ m _ => m == 0
  | _ => false

/-- The integer that the number equals, if there is one. -/
def toInt? (x : Binary64) : Option Int :=
  match x.toRatio? with
  | some (num, den) => if num % den = 0 then some (num / den) else none
  | none => none

/-- Order of two numbers; nothing is ordered against the value that is no number. -/
def compare? (x y : Binary64) : Option Ordering :=
  match x.classify, y.classify with
  | .nan, _ | _, .nan => none
  | .infinite a, .infinite b => some (compare (!a) (!b))
  | .infinite a, _ => some (if a then .lt else .gt)
  | _, .infinite b => some (if b then .gt else .lt)
  | .finite .., .finite .. =>
    match x.toRatio?, y.toRatio? with
    | some (a, b), some (c, d) => some (compare (a * d) (c * b))
    | _, _ => none

/-- Order of a number against an integer. -/
def compareInt? (x : Binary64) (i : Int) : Option Ordering :=
  match x.classify with
  | .nan => none
  | .infinite negative => some (if negative then .lt else .gt)
  | .finite .. => x.toRatio?.map fun (num, den) => compare num (i * den)

/-- The number divided by a positive integer, rounded once. -/
def divNat (x : Binary64) (d : Nat) : Binary64 :=
  match x.classify with
  | .finite negative m e => ofRatio negative (m * Nat.pow 2 e.toNat) (Nat.pow 2 (-e).toNat * d)
  | _ => x

def neg (x : Binary64) : Binary64 :=
  match x.classify with
  | .nan => x
  | .infinite negative => infinity (!negative)
  | .finite negative .. =>
    let n := x.bits.toNat
    ⟨.ofNat (if negative then n - signBits true else n + signBits true)⟩

/-- The sum of two numbers, rounded once. Zeros of both signs make the positive one. -/
def add (x y : Binary64) : Binary64 :=
  match x.classify, y.classify with
  | .nan, _ | _, .nan => nan
  | .infinite a, .infinite b => if a = b then x else nan
  | .infinite _, _ => x
  | _, .infinite _ => y
  | .finite a _ _, .finite b _ _ =>
    match x.toRatio?, y.toRatio? with
    | some (m, d), some (n, e) =>
      let num := m * e + n * d
      ofRatio (if num = 0 then a && b else num < 0) num.natAbs (d * e)
    | _, _ => nan

/-- The product of two numbers, rounded once. -/
def mul (x y : Binary64) : Binary64 :=
  match x.classify, y.classify with
  | .nan, _ | _, .nan => nan
  | .infinite a, .infinite b => infinity (a != b)
  | .infinite a, .finite b m _ | .finite b m _, .infinite a =>
    if m = 0 then nan else infinity (a != b)
  | .finite a _ _, .finite b _ _ =>
    match x.toRatio?, y.toRatio? with
    | some (m, d), some (n, e) => ofRatio (a != b) (m * n).natAbs (d * e)
    | _, _ => nan

end Binary64

end TaggedSuite
