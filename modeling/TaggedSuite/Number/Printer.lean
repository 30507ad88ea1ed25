import TaggedSuite.Number.Shortest

/-!
# The text of a number

A number is written positionally, with at least one digit after the point, when its point lies at
most sixteen places after the first digit and at most three zeros stand between point and digits.
All other numbers are written with an exponent of at least two digits and a sign.
-/
namespace TaggedSuite.Binary64

def decimalDigits (n : Nat) : List Char := Nat.toDigits 10 n

/-- The digits without the zeros at the end. -/
def significant (ds : List Char) : List Char := (ds.reverse.dropWhile (· == '0')).reverse

/-- Digits with the point after the given number of places. -/
def positional (ds : List Char) (point : Int) : List Char :=
  if point ≤ 0 then '0' :: '.' :: List.replicate (-point).toNat '0' ++ ds
  else
    let whole := ds.take point.toNat
    let rest := ds.drop point.toNat
    whole ++ List.replicate (point.toNat - ds.length) '0' ++
      '.' :: (if rest.isEmpty then ['0'] else rest)

/-- Digits with the point after the first one, and an exponent. -/
def scientific (ds : List Char) (point : Int) : List Char :=
  let e := point - 1
  let digits := decimalDigits e.natAbs
  let padded := List.replicate (2 - digits.length) '0' ++ digits
  let mantissa := match ds with
    | d :: [] => [d]
    | d :: rest => d :: '.' :: rest
    | [] => ['0']
  mantissa ++ 'e' :: (if e < 0 then '-' else '+') :: padded

/-- The text of a positive finite number. -/
def magnitudeText (mantissa : Nat) (exponent : Int) : List Char :=
  let d := shortest mantissa exponent
  let written := decimalDigits d.digits
  let point : Int := d.exponent + written.length
  let ds := significant written
  if -4 < point ∧ point ≤ 16 then positional ds point else scientific ds point

def text (x : Binary64) : String :=
  match x.classify with
  | .nan => "nan"
  | .infinite negative => if negative then "-inf" else "inf"
  | .finite negative 0 _ => if negative then "-0.0" else "0.0"
  | .finite negative m e =>
    String.ofList ((if negative then ['-'] else []) ++ magnitudeText m e)

end TaggedSuite.Binary64
