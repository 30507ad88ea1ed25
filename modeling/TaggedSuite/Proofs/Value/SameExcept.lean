import Mathlib.Data.List.Forall2
import Mathlib.Data.Option.Basic
import TaggedSuite.Proofs.Value.Keys

/-!
# Mappings that differ under one key

Two mappings have the same keys in the same order, and the same values under all keys but one. This
stays so when the same entries are inserted into both of them. A key that is a text is spelled in
one way only, so it does not matter which of its spellings is meant.
-/
namespace TaggedSuite

namespace Entries

/-- The mappings are the same except under a key, where other values may stand in one of them than
in the other. -/
def SameExcept (key : String) (Others : Value → Value → Prop) : Entries → Entries → Prop :=
  List.Forall₂ fun d e => e.1 = d.1 ∧ (e.2 = d.2 ∨ d.1 = .str key ∧ Others d.2 e.2)

namespace SameExcept

variable {key : String} {Others : Value → Value → Prop} {entries entries' : Entries} {k : Scalar}
  {v w : Value}

lemma refl (entries : Entries) : SameExcept key Others entries entries :=
  List.forall₂_same.2 fun _ _ => ⟨rfl, .inl rfl⟩

lemma imp {More : Value → Value → Prop} (h : SameExcept key Others entries entries')
    (hmore : ∀ v w, Others v w → More v w) : SameExcept key More entries entries' :=
  List.Forall₂.imp (fun _ _ hde => ⟨hde.1, hde.2.imp_right (And.imp_right (hmore _ _))⟩) h

/-- Under the key there are values that go together, if there are any. -/
lemma get? (h : SameExcept key Others entries entries') :
    Option.Rel (fun v w => w = v ∨ Others v w) (entries.get? (.str key))
      (entries'.get? (.str key)) := by
  induction h with
  | nil => exact .none
  | @cons d e _ _ hde _ ih =>
    obtain ⟨k, v⟩ := d
    obtain ⟨k', w⟩ := e
    obtain ⟨rfl, hvalues⟩ := hde
    rw [Entries.get?, Entries.get?]
    split_ifs
    · exact .some (hvalues.imp_right And.right)
    · exact ih

/-- Under any other key there is the same value. -/
lemma get?_of_ne (h : SameExcept key Others entries entries') (hk : k ≠ .str key) :
    entries'.get? k = entries.get? k := by
  induction h with
  | nil => rfl
  | @cons d e _ _ hde _ ih =>
    obtain ⟨k', v⟩ := d
    obtain ⟨k'', w⟩ := e
    obtain ⟨rfl, hvalues⟩ := hde
    rw [Entries.get?, Entries.get?]
    split_ifs with hsame
    · rcases hvalues with hvalues | ⟨rfl, -⟩
      · exact congrArg some hvalues
      · rw [Scalar.sameKey_comm, Scalar.sameKey_str] at hsame
        exact absurd hsame hk
    · exact ih

lemma insert (h : SameExcept key Others entries entries')
    (hvalues : w = v ∨ k = .str key ∧ Others v w) :
    SameExcept key Others (entries.insert k v) (entries'.insert k w) := by
  induction h with
  | nil => exact .cons ⟨rfl, hvalues⟩ .nil
  | @cons d e _ _ hde hrest ih =>
    obtain ⟨k', v'⟩ := d
    obtain ⟨k'', w'⟩ := e
    obtain ⟨rfl, hold⟩ := hde
    rw [Entries.insert, Entries.insert]
    split_ifs with hsame
    · refine .cons ⟨rfl, hvalues.imp_right ?_⟩ hrest
      rintro ⟨rfl, hothers⟩
      exact ⟨Scalar.sameKey_str.1 hsame, hothers⟩
    · exact .cons ⟨rfl, hold⟩ ih

/-- Mappings that are the same except under a key stay so when such mappings are put on top. -/
lemma overlay {top top' : Entries} (h : SameExcept key Others entries entries')
    (htop : SameExcept key Others top top') :
    SameExcept key Others (entries.overlay top) (entries'.overlay top') := by
  induction htop generalizing entries entries' with
  | nil => exact h
  | @cons d e _ _ hde _ ih =>
    obtain ⟨k, v⟩ := d
    obtain ⟨k', w⟩ := e
    obtain ⟨rfl, hvalues⟩ := hde
    exact ih (h.insert hvalues)

end SameExcept

end Entries

end TaggedSuite
