import TaggedSuite.Text.Base64
import TaggedSuite.Text.Lower
import TaggedSuite.Time.Stamp
import TaggedSuite.Value.Basic
import TaggedSuite.Yaml.Fault

/-!
# What a scalar stands for

A plain scalar without a tag stands for a number, a time, a truth value or nothing if it is written
like one, and for a text otherwise. A number may be grouped by underscores, and it may be written in
other bases than ten, sixty being one of them. A tag asks for a kind, and then more spellings count
than those that are found without it.
-/
namespace TaggedSuite.Yaml
open Numeral (splitSign)

inductive Kind where
  | null
  | bool
  | int
  | float
  | str
  | timestamp
  | binary
  /-- The key under which other mappings are merged. -/
  | merge
  /-- The key that stands for the value of a mapping as a whole. -/
  | value
  | sequence
  | mapping
  /-- The keys of a mapping. -/
  | set
  /-- A sequence of single entries. -/
  | pairs
  | unknown
  deriving DecidableEq, Repr

def Kind.ofTag : String → Kind
  | "tag:yaml.org,2002:null" => null
  | "tag:yaml.org,2002:bool" => bool
  | "tag:yaml.org,2002:int" => int
  | "tag:yaml.org,2002:float" => float
  | "tag:yaml.org,2002:str" => str
  | "tag:yaml.org,2002:timestamp" => timestamp
  | "tag:yaml.org,2002:binary" => binary
  | "tag:yaml.org,2002:merge" => merge
  | "tag:yaml.org,2002:value" => value
  | "tag:yaml.org,2002:seq" => sequence
  | "tag:yaml.org,2002:map" => mapping
  | "tag:yaml.org,2002:set" => set
  | "tag:yaml.org,2002:omap" | "tag:yaml.org,2002:pairs" => pairs
  | _ => unknown

/-- The words for nothing. -/
def nullWords : List String := ["", "~", "null", "Null", "NULL"]

def trueWords : List String :=
  ["yes", "Yes", "YES", "true", "True", "TRUE", "on", "On", "ON"]

def falseWords : List String :=
  ["no", "No", "NO", "false", "False", "FALSE", "off", "Off", "OFF"]

/-! ### The shapes of numbers -/

/-- Whether there are characters, and all of them satisfy the condition. -/
def isRun (p : Char → Bool) (cs : List Char) : Bool := !cs.isEmpty && cs.all p

/-- Whether the character is a digit or groups digits. -/
def isGrouped (c : Char) : Bool := c.isDigit || c == '_'

def colonParts (cs : List Char) : List (List Char) :=
  cs.foldr (fun c parts =>
    match c, parts with
    | ':', _ => [] :: parts
    | c, p :: rest => (c :: p) :: rest
    | c, [] => [[c]]) [[]]

/-- Whether the characters are a digit of base sixty, other than the first one. -/
def isSixtieth : List Char → Bool
  | [a] => a.isDigit
  | [a, b] => '0' ≤ a && a ≤ '5' && b.isDigit
  | _ => false

/-- Whether the characters begin like a number of several digits in base sixty. -/
def isFirstSixtieth (allowsZero : Bool) : List Char → Bool
  | c :: rest => c.isDigit && (allowsZero || c != '0') && rest.all isGrouped
  | [] => false

/-- Whether the characters, behind their sign, are written like an integer. -/
def isIntShape : List Char → Bool
  | ['0'] => true
  | '0' :: 'b' :: rest => isRun (fun c => c == '0' || c == '1' || c == '_') rest
  | '0' :: 'x' :: rest => isRun (fun c => (Numeral.digit? 16 c).isSome || c == '_') rest
  | '0' :: rest => isRun (fun c => ('0' ≤ c && c ≤ '7') || c == '_') rest
  | cs =>
    match colonParts cs with
    | first :: more => isFirstSixtieth false first && more.all isSixtieth
    | [] => false

/-- Whether the characters are an exponent or nothing. The sign must not be left out. -/
def isExponent : List Char → Bool
  | [] => true
  | e :: s :: digits =>
    (e == 'e' || e == 'E') && (s == '-' || s == '+') && isRun Char.isDigit digits
  | _ => false

/-- Whether the characters are digits with a point after the first of them, and may have an
exponent. -/
def isPointShape (cs : List Char) : Bool :=
  match cs with
  | c :: _ =>
    match cs.dropWhile isGrouped with
    | '.' :: fraction => c.isDigit && isExponent (fraction.dropWhile isGrouped)
    | _ => false
  | [] => false

/-- Whether the characters are a number in base sixty with a point. -/
def isSixtyPointShape (cs : List Char) : Bool :=
  let whole := cs.takeWhile (· != '.')
  match cs.dropWhile (· != '.'), colonParts whole with
  | _ :: fraction, first :: second :: more =>
    isFirstSixtieth true first && (second :: more).all isSixtieth && fraction.all isGrouped
  | _, _ => false

/-- Whether the characters are written like a number with a point. -/
def isFloatShape (cs : List Char) : Bool :=
  let (_, body) := splitSign cs
  isPointShape body || isSixtyPointShape body ||
    [".inf", ".Inf", ".INF"].contains (String.ofList body) ||
    [".nan", ".NaN", ".NAN"].contains (String.ofList cs) ||
    match cs with
    | '.' :: c :: rest => c.isDigit && isExponent (rest.dropWhile isGrouped)
    | _ => false

/-- Whether the characters are written like a time. A day alone has its numbers padded. -/
def isTimeShape (cs : List Char) : Bool :=
  (TimeStamp.ofChars? cs).any fun s => s.isPadded || s.time?.isSome

/-- The characters without a line feed at the end, unless that is all there is. -/
def dropFinalBreak (cs : List Char) : List Char :=
  if cs.getLast? = some '\n' ∧ cs.length ≠ 1 then cs.dropLast else cs

/-- The kind of a scalar that is found by the way it is written. A line feed at its end does not
count. -/
def Kind.ofText (text : String) : Kind :=
  let cs := dropFinalBreak text.toList
  let word := String.ofList cs
  if nullWords.contains word then null
  else if trueWords.contains word || falseWords.contains word then bool
  else if isFloatShape cs then float
  else if isIntShape (splitSign cs).2 then int
  else if isTimeShape cs then timestamp
  else if word = "<<" then merge
  else if word = "=" then value
  else str

/-! ### Values -/

/-- A numeral that may be a fault. -/
def ofNumeral {α : Type} (x : Except Numeral.Fault α) : Except Fault α :=
  x.mapError fun f => .conversion (.numeral f)

/-- The integer that places in base sixty write. -/
def sixtiethInteger (places : List Int) : Int := places.foldl (fun n d => 60 * n + d) 0

/-- The integer that characters write behind a sign. Leading characters tell the base. -/
def unsignedInteger (cs : List Char) : Except Fault Int :=
  match cs with
  | [] => .error (.conversion .emptyNumeral)
  | ['0'] => .ok 0
  | '0' :: 'b' :: rest => ofNumeral (Numeral.integer 2 rest)
  | '0' :: 'x' :: rest => ofNumeral (Numeral.integer 16 rest)
  | '0' :: _ => ofNumeral (Numeral.integer 8 cs)
  | _ =>
    if cs.contains ':' then
      (ofNumeral ((colonParts cs).mapM (Numeral.integer 10))).map sixtiethInteger
    else ofNumeral (Numeral.integer 10 cs)

/-- The integer that a text writes. Underscores do not count. -/
def integerOf (text : String) : Except Fault Int :=
  let cs := text.toList.filter (· != '_')
  let (isNegative, unsigned) := splitSign cs
  (unsignedInteger unsigned).map fun n => if isNegative then -n else n

/-- The number that places in base sixty write, the last place first. Every place has its value, and
the product and the sum are rounded each time. -/
def sixtiethNumber (sum : Binary64) (base : Nat) : List Binary64 → Except Fault Binary64
  | [] => .ok sum
  | x :: rest =>
    match (Binary64.ofInt base).classify with
    | .infinite _ => .error (.conversion .placeTooLarge)
    | _ => sixtiethNumber (sum.add (x.mul (.ofInt base))) (60 * base) rest

/-- The number that characters write behind a sign. -/
def unsignedNumber (cs : List Char) : Except Fault Binary64 :=
  if cs = ".inf".toList then .ok (.infinity false)
  else if cs = ".nan".toList then .ok .nan
  else if cs.contains ':' then do
    let places ← ofNumeral ((colonParts cs).mapM Numeral.decimal)
    sixtiethNumber (.ofInt 0) 1 places.reverse
  else ofNumeral (Numeral.decimal cs)

/-- The number that a text writes. Neither underscores nor the case of letters count. -/
def numberOf (text : String) : Except Fault Binary64 :=
  let cs := Text.lowerChars (text.toList.filter (· != '_'))
  let (isNegative, unsigned) := splitSign cs
  if cs.isEmpty then .error (.conversion .emptyNumeral)
  else (unsignedNumber unsigned).map fun x => if isNegative then x.neg else x

/-- The truth value that a word stands for, in whatever case it is written. -/
def truthOf (text : String) : Except Fault Bool :=
  let word := Text.lower text
  if trueWords.contains word then .ok true
  else if falseWords.contains word then .ok false
  else .error (.conversion (.unknownWord word))

/-- The day or moment that a text writes. -/
def timeOf (text : String) : Except Fault Scalar :=
  match TimeStamp.ofChars? (dropFinalBreak text.toList) with
  | none => .error (.conversion .notTime)
  | some s =>
    match s.time? with
    | none => (s.toDay.map Scalar.day).mapError fun e => .conversion (.calendar e)
    | some t => ((s.toMoment t).map Scalar.moment).mapError fun e => .conversion (.calendar e)

/-- The bytes that a text writes. Nothing but ASCII can stand in it. -/
def bytesOf (text : String) : Except Fault (List UInt8) :=
  if text.toList.all fun c => c.toNat < 128 then orMalformed (Text.base64? text.toList)
  else .error .malformed

/-- What a text stands for as a scalar of a kind. -/
def scalarOf (kind : Kind) (text : String) : Except Fault Scalar :=
  match kind with
  | .null => .ok .null
  | .bool => (truthOf text).map .bool
  | .int => (integerOf text).map .int
  | .float => (numberOf text).map .num
  | .str => .ok (.str text)
  | .timestamp => timeOf text
  | .binary => (bytesOf text).map .bytes
  | _ => .error .malformed

end TaggedSuite.Yaml
