import TaggedSuite.Number.Binary64
import TaggedSuite.Time.Moment

/-!
# Settings values

A value of a settings file: a scalar, a list, a set or a mapping. A mapping keeps its entries in the
order of their first insertion. A list has a fixed counterpart, the tuple, and a mapping a read-only
counterpart, the view; settings that must not change are built from those.
-/
namespace TaggedSuite

/-- A value without parts. The keys of a mapping are scalars. -/
inductive Scalar where
  | null
  | bool (b : Bool)
  | int (i : Int)
  | num (x : Binary64)
  | str (s : String)
  | day (d : Day)
  | moment (m : Moment)
  | bytes (bs : List UInt8)
  deriving DecidableEq, Repr, Inhabited

namespace Scalar

/-- The form that decides which keys are the same: a truth value counts as 0 or 1, a number without
a fraction as an integer, and a moment as the same one elsewhere. -/
def keyForm : Scalar → Scalar
  | bool b => int (if b then 1 else 0)
  | num x => match x.toInt? with
    | some i => int i
    | none => num x
  | moment m => moment m.atMeridian
  | s => s

/-- Whether two scalars are one key of a mapping. -/
def sameKey (a b : Scalar) : Bool := a.keyForm == b.keyForm

@[simp] theorem sameKey_self (a : Scalar) : sameKey a a = true := by simp [sameKey]

theorem sameKey_iff {a b : Scalar} : sameKey a b = true ↔ a.keyForm = b.keyForm := by
  simp [sameKey]

theorem sameKey_comm (a b : Scalar) : sameKey a b = sameKey b a := by
  rw [Bool.eq_iff_iff, sameKey_iff, sameKey_iff, eq_comm]

/-- Whether the scalar counts as true where a truth value is asked for. -/
def truthy : Scalar → Bool
  | null => false
  | bool b => b
  | int i => i != 0
  | num x => !x.isZero
  | str s => s != ""
  | bytes bs => !bs.isEmpty
  | day _ | moment _ => true

end Scalar

/-- A settings value. -/
inductive Value where
  | scalar (s : Scalar)
  | list (items : List Value)
  | tuple (items : List Value)
  | map (entries : List (Scalar × Value))
  | view (entries : List (Scalar × Value))
  | set (members : List Scalar)
  deriving BEq, Repr, Inhabited

/-- The entries of a mapping, in the order of their first insertion. -/
abbrev Entries := List (Scalar × Value)

namespace Entries

def get? (entries : Entries) (key : Scalar) : Option Value :=
  match entries with
  | [] => none
  | (k, v) :: rest => if k.sameKey key then some v else get? rest key

/-- Whether there is an entry under the key. -/
def contains (entries : Entries) (key : Scalar) : Bool := (entries.get? key).isSome

/-- Puts a value under a key. A key that is present keeps its place and its spelling. -/
def insert (entries : Entries) (key : Scalar) (value : Value) : Entries :=
  match entries with
  | [] => [(key, value)]
  | (k, v) :: rest =>
    if k.sameKey key then (k, value) :: rest else (k, v) :: insert rest key value

/-- Inserts the entries of the second mapping into the first, one after the other. -/
def overlay (base top : Entries) : Entries :=
  top.foldl (fun acc entry => acc.insert entry.1 entry.2) base

/-- A mapping built from entries that may repeat a key; the last value of a key wins. -/
def ofList (entries : List (Scalar × Value)) : Entries := overlay [] entries

def keys (entries : Entries) : List Scalar := entries.map (·.1)

@[simp] theorem get?_nil (key : Scalar) : get? [] key = none := rfl

@[simp] theorem insert_nil (key : Scalar) (value : Value) : insert [] key value = [(key, value)] :=
  rfl

@[simp] theorem overlay_nil (base : Entries) : base.overlay [] = base := rfl

theorem overlay_cons (base : Entries) (key : Scalar) (value : Value) (rest : Entries) :
    base.overlay ((key, value) :: rest) = (base.insert key value).overlay rest := rfl

theorem get?_insert (entries : Entries) (key : Scalar) (value : Value) (other : Scalar) :
    (entries.insert key value).get? other =
      if key.sameKey other then some value else entries.get? other := by
  induction entries with
  | nil => rfl
  | cons entry rest ih =>
    obtain ⟨k, v⟩ := entry
    simp only [insert]
    split
    · next h =>
      rw [Scalar.sameKey_iff] at h
      by_cases hk : key.sameKey other = true
      · have : k.sameKey other = true := by
          rw [Scalar.sameKey_iff] at hk ⊢; rw [h, hk]
        simp [get?, this, hk]
      · have : ¬ k.sameKey other = true := by
          rw [Scalar.sameKey_iff] at hk ⊢; rw [h]; exact hk
        simp [get?, this, hk]
    · next h =>
      simp only [get?, ih]
      by_cases hk : k.sameKey other = true
      · have : ¬ key.sameKey other = true := by
          intro hkey
          rw [Scalar.sameKey_iff] at hk hkey
          exact h (Scalar.sameKey_iff.2 (hk.trans hkey.symm))
        simp [hk, this]
      · simp [hk]

end Entries

namespace Members

/-- The integer that a scalar is. -/
def integer? : Scalar → Option Int
  | .int i => some i
  | _ => none

/-- The members of a set: integers in ascending order, and others in the order in which they came.
-/
def ofList (members : List Scalar) : List Scalar :=
  match members.mapM integer? with
  | some integers => (integers.mergeSort fun a b => a ≤ b).map .int
  | none => members

end Members

namespace Value

/-- The value that stands for nothing. -/
abbrev null : Value := .scalar .null

abbrev bool (b : Bool) : Value := .scalar (.bool b)
abbrev int (i : Int) : Value := .scalar (.int i)
abbrev num (x : Binary64) : Value := .scalar (.num x)
abbrev str (s : String) : Value := .scalar (.str s)

/-- The name that messages give to the kind of the value, with the module it is from. -/
def kindName : Value → String
  | .scalar .null => "NoneType"
  | .scalar (.bool _) => "bool"
  | .scalar (.int _) => "int"
  | .scalar (.num _) => "float"
  | .scalar (.str _) => "str"
  | .scalar (.day _) => "datetime.date"
  | .scalar (.moment _) => "datetime.datetime"
  | .scalar (.bytes _) => "bytes"
  | .list _ => "list"
  | .tuple _ => "tuple"
  | .map _ => "dict"
  | .view _ => "mappingproxy"
  | .set _ => "set"

/-- The name of the kind of the value by itself. -/
def bareKindName : Value → String
  | .scalar (.day _) => "date"
  | .scalar (.moment _) => "datetime"
  | v => v.kindName

/-- Whether the value counts as true where a truth value is asked for: an empty text, list, mapping
or set does not. -/
def truthy : Value → Bool
  | .scalar s => s.truthy
  | .list items | .tuple items => !items.isEmpty
  | .map entries | .view entries => !entries.isEmpty
  | .set members => !members.isEmpty

/-- The entries of a mapping, whether it can be changed or not. -/
def entries? : Value → Option Entries
  | .map entries | .view entries => some entries
  | _ => none

def isMapping (v : Value) : Bool := v.entries?.isSome

/-- Whether the value is null or a text without characters. -/
def isBlankText : Value → Bool
  | .scalar .null => true
  | .scalar (.str s) => s == ""
  | _ => false

end Value

end TaggedSuite
