import Mathlib.Data.List.Forall2
import Mathlib.Data.Option.Basic

/-!
# Data side by side

Two pieces of work are compared by a relation between what the one has and what the other has. Here
is what such a relation gives for optional values, for lists, for lists of values under keys, and
for work that may fail.
-/
namespace TaggedSuite

variable {ε α β γ δ κ : Type}

/-! ### Optional values and lists -/

section
variable {R : α → β → Prop} {as : List α} {bs : List β} {a? : Option α} {b? : Option β} {a : α}
  {b : β}

lemma isSome_eq_of_rel (h : Option.Rel R a? b?) : b?.isSome = a?.isSome := by
  cases h <;> rfl

lemma rel_getD (h : Option.Rel R a? b?) (hdefault : R a b) : R (a?.getD a) (b?.getD b) := by
  cases h with
  | none => exact hdefault
  | some h => exact h

/-- What is found in lists whose members go together goes together. -/
lemma rel_find? {p : α → Bool} {q : β → Bool} (hpq : ∀ a b, R a b → q b = p a)
    (h : List.Forall₂ R as bs) : Option.Rel R (as.find? p) (bs.find? q) := by
  induction h with
  | nil => exact .none
  | @cons a b _ _ hab _ ih =>
    rw [List.find?_cons, List.find?_cons, hpq a b hab]
    cases p a with
    | true => exact .some hab
    | false => exact ih

lemma rel_getElem? (h : List.Forall₂ R as bs) (i : Nat) : Option.Rel R as[i]? bs[i]? := by
  induction h generalizing i with
  | nil => exact .none
  | cons hab _ ih =>
    cases i with
    | zero => exact .some hab
    | succ i => exact ih i

lemma rel_set (h : List.Forall₂ R as bs) (i : Nat) (hab : R a b) :
    List.Forall₂ R (as.set i a) (bs.set i b) := by
  induction h generalizing i with
  | nil => exact .nil
  | cons hold hrest ih =>
    cases i with
    | zero => exact .cons hab hrest
    | succ i => exact .cons hold (ih i)

/-- To sort both of two lists keeps members together that the order does not tell apart. -/
lemma rel_mergeSort {le : α → α → Bool} {le' : β → β → Bool} (h : List.Forall₂ R as bs)
    (hle : ∀ {a a' b b'}, R a b → R a' b' → le' b b' = le a a') :
    List.Forall₂ R (as.mergeSort le) (bs.mergeSort le') := by
  obtain ⟨hlength, hall⟩ := List.forall₂_iff_zip.1 h
  have hfirst : ((as.zip bs).mergeSort fun p q => le p.1 q.1).map Prod.fst = as.mergeSort le := by
    rw [List.map_mergeSort (s := le) fun _ _ _ _ => rfl, List.map_fst_zip (Nat.le_of_eq hlength)]
  have hsecond : ((as.zip bs).mergeSort fun p q => le p.1 q.1).map Prod.snd = bs.mergeSort le' := by
    rw [List.map_mergeSort (s := le') fun p hp q hq => (hle (hall hp) (hall hq)).symm,
      List.map_snd_zip (Nat.le_of_eq hlength.symm)]
  rw [← hfirst, ← hsecond, List.forall₂_map_left_iff, List.forall₂_map_right_iff,
    List.forall₂_same]
  intro p hp
  exact hall (List.mem_mergeSort.1 hp)

end

/-! ### Values under keys -/

section
variable {R : κ → α → β → Prop} {as : List (κ × α)} {bs : List (κ × β)}

lemma keys_eq_of_rel (h : List.Forall₂ (fun a b => b.1 = a.1 ∧ R a.1 a.2 b.2) as bs) :
    bs.map (·.1) = as.map (·.1) := by
  induction h with
  | nil => rfl
  | cons hfirst _ ih => rw [List.map_cons, List.map_cons, hfirst.1, ih]

lemma rel_lookup [BEq κ] [LawfulBEq κ]
    (h : List.Forall₂ (fun a b => b.1 = a.1 ∧ R a.1 a.2 b.2) as bs) (key : κ) :
    Option.Rel (R key) (as.lookup key) (bs.lookup key) := by
  induction h with
  | nil => exact .none
  | @cons a b _ _ hfirst _ ih =>
    obtain ⟨k, v⟩ := a
    obtain ⟨k', w⟩ := b
    obtain ⟨rfl, hvalues⟩ := hfirst
    simp only [List.lookup_cons]
    cases hkey : key == k' with
    | true =>
      rw [beq_iff_eq] at hkey
      subst hkey
      exact .some hvalues
    | false => exact ih

end

/-! ### Work that may fail -/

/-- Both fail, with errors that go together, or both give values that do. -/
inductive Outcomes (Errors : ε → ε → Prop) (Values : α → β → Prop) :
    Except ε α → Except ε β → Prop
  | ok {a : α} {b : β} (h : Values a b) : Outcomes Errors Values (.ok a) (.ok b)
  | error {e f : ε} (h : Errors e f) : Outcomes Errors Values (.error e) (.error f)

namespace Outcomes

variable {Errors : ε → ε → Prop} {Values : α → β → Prop} {Others : γ → δ → Prop}
  {x : Except ε α} {y : Except ε β}

lemma imp {Others : α → β → Prop} (h : Outcomes Errors Values x y)
    (hothers : ∀ a b, Values a b → Others a b) : Outcomes Errors Others x y := by
  cases h with
  | ok h => exact .ok (hothers _ _ h)
  | error h => exact .error h

lemma imp_errors {Others : ε → ε → Prop} (h : Outcomes Errors Values x y)
    (hothers : ∀ e f, Errors e f → Others e f) : Outcomes Others Values x y := by
  cases h with
  | ok h => exact .ok h
  | error h => exact .error (hothers _ _ h)

lemma map {f : α → γ} {g : β → δ} (h : Outcomes Errors Values x y)
    (hfg : ∀ a b, Values a b → Others (f a) (g b)) :
    Outcomes Errors Others (x.map f) (y.map g) := by
  cases h with
  | ok h => exact .ok (hfg _ _ h)
  | error h => exact .error h

lemma bind {f : α → Except ε γ} {g : β → Except ε δ} (h : Outcomes Errors Values x y)
    (hfg : ∀ a b, Values a b → Outcomes Errors Others (f a) (g b)) :
    Outcomes Errors Others (x >>= f) (y >>= g) := by
  cases h with
  | ok h => exact hfg _ _ h
  | error h => exact .error h

/-- Both go on with the same value. -/
lemma bind_same {x : Except ε α} {f : α → Except ε γ} {g : α → Except ε δ}
    (h : ∀ a, Outcomes Eq Others (f a) (g a)) : Outcomes Eq Others (x >>= f) (x >>= g) := by
  cases x with
  | ok a => exact h a
  | error e => exact .error rfl

lemma of_eq {x y : Except ε α} (herrors : ∀ e, Errors e e) (h : y = x) :
    Outcomes Errors Eq x y := by
  subst h
  cases y with
  | ok a => exact .ok rfl
  | error e => exact .error (herrors e)

lemma eq {x y : Except ε α} (h : Outcomes Eq Eq x y) : y = x := by
  cases h with
  | ok h => rw [h]
  | error h => rw [h]

end Outcomes

end TaggedSuite
