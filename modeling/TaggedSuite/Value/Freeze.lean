import TaggedSuite.Value.Printer

/-!
# Read-only values

Freezing turns every list into a tuple and every mapping into a view, at every depth, and leaves
sets as they are; thawing turns them back. Assigning to a place inside a value works for lists and
mappings and is refused by tuples and views.
-/
namespace TaggedSuite

mutual

def Value.freeze : Value → Value
  | .scalar s => .scalar s
  | .set members => .set members
  | .list items | .tuple items => .tuple (freezeItems items)
  | .map entries | .view entries => .view (freezeEntries entries)

def freezeItems : List Value → List Value
  | [] => []
  | v :: rest => v.freeze :: freezeItems rest

/-- Entries with the read-only counterparts of their values. -/
def freezeEntries : List (Scalar × Value) → List (Scalar × Value)
  | [] => []
  | (k, v) :: rest => (k, v.freeze) :: freezeEntries rest

end

mutual

def Value.thaw : Value → Value
  | .scalar s => .scalar s
  | .set members => .set members
  | .list items => .list items
  | .tuple items => .list (thawItems items)
  | .map entries | .view entries => .map (thawEntries entries)

def thawItems : List Value → List Value
  | [] => []
  | v :: rest => v.thaw :: thawItems rest

/-- Entries with the changeable counterparts of their values. -/
def thawEntries : List (Scalar × Value) → List (Scalar × Value)
  | [] => []
  | (k, v) :: rest => (k, v.thaw) :: thawEntries rest

end

@[simp] theorem freezeItems_eq_map (items : List Value) :
    freezeItems items = items.map Value.freeze := by
  induction items with
  | nil => rfl
  | cons v rest ih => simp [freezeItems, ih]

@[simp] theorem freezeEntries_eq_map (entries : List (Scalar × Value)) :
    freezeEntries entries = entries.map fun e => (e.1, e.2.freeze) := by
  induction entries with
  | nil => rfl
  | cons e rest ih => simp [freezeEntries, ih]

@[simp] theorem thawItems_eq_map (items : List Value) :
    thawItems items = items.map Value.thaw := by
  induction items with
  | nil => rfl
  | cons v rest ih => simp [thawItems, ih]

@[simp] theorem thawEntries_eq_map (entries : List (Scalar × Value)) :
    thawEntries entries = entries.map fun e => (e.1, e.2.thaw) := by
  induction entries with
  | nil => rfl
  | cons e rest ih => simp [thawEntries, ih]

/-- What holds items that are numbered from zero on. -/
inductive Sequence where
  | list
  | tuple
  /-- The characters of a text. -/
  | text
  | bytes
  deriving DecidableEq, Repr

/-- Why a place inside a value cannot be reached or assigned. -/
inductive PlaceError where
  | missingKey (key : Scalar)
  | outOfRange (kind : Sequence)
  /-- A place in a list that is assigned to is out of range. -/
  | unassignable
  /-- The index is too large for any sequence. -/
  | hugeIndex
  | wrongIndex (kind : Sequence) (found : String)
  | noItems (kind : String)
  | noAssignment (kind : String)
  deriving DecidableEq, Repr

/-- The wording of a place error. The error about a key without a text has no wording. -/
def PlaceError.message? : PlaceError → Option String
  | missingKey key => key.shown?
  | outOfRange .list => "list index out of range"
  | outOfRange .tuple => "tuple index out of range"
  | outOfRange .text => "string index out of range"
  | outOfRange .bytes => "index out of range"
  | unassignable => "list assignment index out of range"
  | hugeIndex => "cannot fit 'int' into an index-sized integer"
  | wrongIndex .list found => s!"list indices must be integers or slices, not {found}"
  | wrongIndex .tuple found => s!"tuple indices must be integers or slices, not {found}"
  | wrongIndex .text found => s!"string indices must be integers, not '{found}'"
  | wrongIndex .bytes found => s!"byte indices must be integers or slices, not {found}"
  | noItems kind => s!"'{kind}' object is not subscriptable"
  | noAssignment kind => s!"'{kind}' object does not support item assignment"

namespace Value

/-- The integer that an index stands for. -/
def index? : Scalar → Option Int
  | .int i => some i
  | .bool b => some (if b then 1 else 0)
  | _ => none

/-- The place that an index means in a sequence of a length. A negative index counts from the end.
-/
def place (kind : Sequence) (length : Nat) (index : Scalar) : Except PlaceError Nat :=
  match index? index with
  | none => .error (.wrongIndex kind (Value.scalar index).kindName)
  | some i =>
    if i < -9223372036854775808 ∨ 9223372036854775807 < i then .error .hugeIndex
    else
      let i := if i < 0 then i + length else i
      if 0 ≤ i ∧ i < length then .ok i.toNat else .error (.outOfRange kind)

def itemAt (kind : Sequence) (items : List Value) (index : Scalar) : Except PlaceError Value := do
  let i ← place kind items.length index
  return items.getD i .null

/-- The part of a value under a key or index. -/
def part (v : Value) (key : Scalar) : Except PlaceError Value :=
  match v with
  | .scalar (.str s) => itemAt .text (s.toList.map fun c => .str c.toString) key
  | .scalar (.bytes bs) => itemAt .bytes (bs.map fun b => .int b.toNat) key
  | .scalar _ | .set _ => .error (.noItems v.kindName)
  | .list items => itemAt .list items key
  | .tuple items => itemAt .tuple items key
  | .map entries | .view entries =>
    match Entries.get? entries key with
    | some w => .ok w
    | none => .error (.missingKey key)

def withPart (v : Value) (key : Scalar) (new : Value) : Except PlaceError Value :=
  match v with
  | .map entries => .ok (.map (Entries.insert entries key new))
  | .list items =>
    match place .list items.length key with
    | .ok i => .ok (.list (items.set i new))
    | .error (.outOfRange _) => .error .unassignable
    | .error e => .error e
  | v => .error (.noAssignment v.kindName)

/-- The value with the part under a key or index exchanged for what has become of it. -/
def exchange (v : Value) (key : Scalar) (changed : Value) : Value :=
  match v with
  | .map entries => .map (Entries.insert entries key changed)
  | .view entries => .view (Entries.insert entries key changed)
  | .list items => .list (items.set ((place .list items.length key).toOption.getD 0) changed)
  | .tuple items => .tuple (items.set ((place .tuple items.length key).toOption.getD 0) changed)
  | .scalar _ | .set _ => v

/-- Assigns to the place that a path of keys and indices leads to; gives the whole value after the
assignment. Only the value that holds the place has to be changeable. -/
def assign (v : Value) (path : List Scalar) (new : Value) : Except PlaceError Value :=
  match path with
  | [] => .ok new
  | [key] => v.withPart key new
  | key :: rest => do
    let changed ← (← v.part key).assign rest new
    return v.exchange key changed

end Value

end TaggedSuite
