import TaggedSuite.Proofs.Value.Keys

/-!
# Freezing and thawing

Plain data has no read-only part, and the mappings in it have distinct keys. To freeze plain data
and thaw it again gives it back, so nothing of it is lost as long as it is read-only. A mapping
stays one on both ways.
-/
namespace TaggedSuite

/-- The value is plain data: nothing in it is read-only, and its mappings have distinct keys. -/
inductive Value.IsChangeable : Value → Prop
  | scalar (s : Scalar) : IsChangeable (.scalar s)
  | set (members : List Scalar) : IsChangeable (.set members)
  | list {items : List Value} (h : ∀ v ∈ items, IsChangeable v) : IsChangeable (.list items)
  | map {entries : Entries} (hkeys : entries.HasDistinctKeys)
    (h : ∀ e ∈ entries, IsChangeable e.2) : IsChangeable (.map entries)

namespace Value

variable {v : Value} {entries bottom top : Entries} {key : Scalar}

lemma entries?_freeze (v : Value) : v.freeze.entries? = v.entries?.map freezeEntries := by
  cases v <;> simp [freeze, entries?]

@[simp] lemma isMapping_freeze (v : Value) : v.freeze.isMapping = v.isMapping := by
  rw [isMapping, entries?_freeze, Option.isSome_map, isMapping]

namespace IsChangeable

lemma isKeyed (h : v.IsChangeable) : v.IsKeyed := by
  induction h with
  | scalar s => exact .scalar s
  | set members => exact .set members
  | list _ ih => exact .list ih
  | map hkeys _ ih => exact .map hkeys ih

lemma nil : IsChangeable (.map []) := .map .nil fun _ he => absurd he List.not_mem_nil

lemma singleton (key : String) (s : Scalar) : IsChangeable (.map [(.str key, .scalar s)]) :=
  .map (List.pairwise_singleton _ _) (List.forall_mem_singleton.2 (.scalar s))

lemma distinct (h : IsChangeable (.map entries)) : entries.HasDistinctKeys := h.isKeyed.distinct

lemma value {e : Scalar × Value} (h : IsChangeable (.map entries)) (he : e ∈ entries) :
    IsChangeable e.2 := by
  cases h with
  | map _ hvalues => exact hvalues e he

lemma of_get? (h : IsChangeable (.map entries)) (hv : entries.get? key = some v) :
    IsChangeable v := by
  obtain ⟨e, he, -, rfl⟩ := Entries.exists_of_get? hv
  exact h.value he

/-- A mapping that can be changed is no view. -/
lemma eq_map (h : v.IsChangeable) (hentries : v.entries? = some entries) : v = .map entries := by
  cases h with
  | map _ _ => exact congrArg Value.map (Option.some.inj hentries)
  | _ => cases hentries

lemma overlay (hbottom : IsChangeable (.map bottom)) (htop : IsChangeable (.map top)) :
    IsChangeable (.map (bottom.overlay top)) := by
  refine .map (hbottom.distinct.overlay top) fun e he => ?_
  rcases Entries.mem_overlay he with he | ⟨d, hd, hvalue⟩
  · exact hbottom.value he
  · exact hvalue ▸ htop.value hd

/-- Plain data survives freezing and thawing. -/
lemma thaw_freeze (h : v.IsChangeable) : v.freeze.thaw = v := by
  induction h with
  | scalar s => rfl
  | set members => rfl
  | @list items _ ih =>
    rw [freeze, thaw, freezeItems_eq_map, thawItems_eq_map, List.map_map]
    exact congrArg Value.list ((List.map_congr_left ih).trans (List.map_id items))
  | @map entries _ _ ih =>
    rw [freeze, thaw, freezeEntries_eq_map, thawEntries_eq_map, List.map_map]
    have hentry : ∀ e ∈ entries, (e.1, e.2.freeze.thaw) = e :=
      fun e he => Prod.ext rfl (ih e he)
    exact congrArg Value.map ((List.map_congr_left hentry).trans (List.map_id entries))

lemma thawEntries_freezeEntries (h : IsChangeable (.map entries)) :
    thawEntries (freezeEntries entries) = entries := by
  have hthaw := h.thaw_freeze
  rw [freeze, thaw] at hthaw
  exact Value.map.inj hthaw

end IsChangeable

@[simp] lemma isChangeable_scalar (s : Scalar) : IsChangeable (.scalar s) := .scalar s

@[simp] lemma isChangeable_map :
    IsChangeable (.map entries) ↔ entries.HasDistinctKeys ∧ ∀ e ∈ entries, IsChangeable e.2 :=
  ⟨fun h => ⟨h.distinct, fun _ => h.value⟩, fun h => .map h.1 h.2⟩

end Value

end TaggedSuite
