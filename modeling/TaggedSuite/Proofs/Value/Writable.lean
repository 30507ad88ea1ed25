import TaggedSuite.Proofs.Json.Values
import TaggedSuite.Proofs.Number.Numeral
import TaggedSuite.Proofs.Value.Keys
import TaggedSuite.Value.Printer

/-!
# Values that have a text

A value has a text unless there is an integer with too many digits in it. Values that are put
together from values with a text have one, and so does everything that is read from JSON, where the
digits of an integer are counted.
-/
namespace TaggedSuite

def Scalar.IsWritable (s : Scalar) : Prop := s.shown?.isSome = true

def Value.IsWritable (v : Value) : Prop := v.shown?.isSome = true

/-- The keys and the values of all entries have a text. -/
def Entries.AreWritable (entries : Entries) : Prop :=
  ∀ e ∈ entries, e.1.IsWritable ∧ e.2.IsWritable

lemma Scalar.isWritable_int {i : Int} :
    IsWritable (.int i) ↔ i.natAbs < Numeral.unwritableBound :=
  Numeral.isSome_write?_iff

lemma Scalar.not_isWritable_int {n : Nat} (h : Numeral.unwritableBound ≤ n) :
    ¬IsWritable (.int n) := by
  rw [isWritable_int, Int.natAbs_natCast]
  omega

lemma Scalar.isWritable_str (s : String) : IsWritable (.str s) := rfl

namespace Value

variable {v : Value} {items : List Value} {entries : Entries}

lemma isWritable_scalar {s : Scalar} : IsWritable (.scalar s) ↔ s.IsWritable := by
  rw [IsWritable, shown?, Scalar.IsWritable]

@[simp] lemma isWritable_str (s : String) : IsWritable (.str s) :=
  isWritable_scalar.2 (Scalar.isWritable_str s)

lemma isSome_shownItems?_iff :
    (shownItems? items).isSome = true ↔ ∀ v ∈ items, v.IsWritable := by
  induction items with
  | nil => simp [shownItems?]
  | cons v items ih =>
    rw [List.forall_mem_cons, ← ih, IsWritable, shownItems?]
    cases v.shown? <;> cases shownItems? items <;> simp

lemma isWritable_list : IsWritable (.list items) ↔ ∀ v ∈ items, v.IsWritable := by
  rw [← isSome_shownItems?_iff, IsWritable, shown?]
  cases shownItems? items <;> simp

lemma isWritable_map : IsWritable (.map entries) ↔ entries.AreWritable := by
  have hentries : (shownEntries? entries).isSome = true ↔ entries.AreWritable := by
    induction entries with
    | nil => simp [shownEntries?, Entries.AreWritable]
    | cons e entries ih =>
      obtain ⟨k, v⟩ := e
      rw [Entries.AreWritable, List.forall_mem_cons, ← Entries.AreWritable, ← ih, IsWritable,
        Scalar.IsWritable, shownEntries?]
      cases k.shown? <;> cases v.shown? <;> cases shownEntries? entries <;> simp
  rw [← hentries, IsWritable, shown?]
  cases shownEntries? entries <;> simp

lemma isSome_plain?_iff : v.plain?.isSome = true ↔ v.IsWritable := by
  rw [isSome_plain?, IsWritable]

lemma plain?_eq_none_iff : v.plain? = none ↔ ¬v.IsWritable := by
  rw [← isSome_plain?_iff, Option.not_isSome_iff_eq_none]

lemma IsWritable.exists_plain? (h : v.IsWritable) : ∃ s, v.plain? = some s :=
  Option.isSome_iff_exists.1 (isSome_plain?_iff.2 h)

end Value

namespace Entries

variable {entries bottom top : Entries} {key : Scalar} {v : Value}

lemma AreWritable.of_get? (h : entries.AreWritable) (hv : entries.get? key = some v) :
    v.IsWritable := by
  obtain ⟨e, he, -, rfl⟩ := exists_of_get? hv
  exact (h e he).2

lemma AreWritable.insert (h : entries.AreWritable) (hkey : key.IsWritable) (hv : v.IsWritable) :
    (entries.insert key v).AreWritable := by
  intro e he
  constructor
  · rcases key_of_mem_insert he with ⟨d, hd, hsame⟩ | rfl
    · exact hsame ▸ (h d hd).1
    · exact hkey
  · rcases mem_insert he with he | rfl
    · exact (h e he).2
    · exact hv

lemma AreWritable.overlay (hbottom : bottom.AreWritable) (htop : top.AreWritable) :
    (bottom.overlay top).AreWritable := by
  induction top generalizing bottom with
  | nil => exact hbottom
  | cons e top ih =>
    obtain ⟨hfirst, hrest⟩ := List.forall_mem_cons.1 htop
    exact ih (hbottom.insert hfirst.1 hfirst.2) hrest

end Entries

namespace Json

/-- A named value is no integer. -/
lemma isWritable_of_named? {cs rest : List Char} {s : Scalar} (h : named? cs = some (s, rest)) :
    s.IsWritable := by
  unfold named? at h
  split at h <;> cases h <;> rfl

lemma isWritable_of_number {cs rest : List Char} {s : Scalar} (h : number cs = .ok (s, rest)) :
    s.IsWritable := by
  unfold number at h
  dsimp only at h
  split at h
  · cases h
  split at h
  · split at h
    · next hinteger =>
      cases h
      exact Numeral.isSome_write?_of_integer hinteger
    · cases h
  · cases h
    rfl

/-- What is read from JSON has a text. -/
lemma isWritable_of_readChars {cs : List Char} {v : Value} (h : readChars cs = .ok v) :
    v.IsWritable := by
  have hP : IsHandedOn Value.IsWritable :=
    { text := Value.isWritable_str
      named := fun hnamed => Value.isWritable_scalar.2 (isWritable_of_named? hnamed)
      number := fun hnumber => Value.isWritable_scalar.2 (isWritable_of_number hnumber)
      list := Value.isWritable_list.2
      noEntries := Value.isWritable_map.2 fun _ he => (List.not_mem_nil he).elim
      insert := fun {acc key v} hacc hv => Value.isWritable_map.2
        ((Value.isWritable_map.1 hacc).insert (Scalar.isWritable_str key) hv) }
  exact of_readChars hP h

end Json

end TaggedSuite
