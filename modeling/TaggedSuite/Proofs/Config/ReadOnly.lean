import TaggedSuite.Proofs.Config.Surface

/-!
# Read-only at every depth

A frozen value holds no list and no changeable mapping, at whatever depth. So an assignment to a
place inside of it fails wherever a path of keys and indices leads, and a configuration, whose
settings are frozen, is the same afterwards. Freezing forgets nothing else: between plain data and
read-only values one can go back and forth.
-/
namespace TaggedSuite

namespace Value

variable {v w : Value} {items : List Value} {entries : Entries} {key : Scalar}
  {path : List Scalar}

lemma sizeOf_lt_of_mem {e : Scalar × Value} (he : e ∈ entries) : sizeOf e.2 < sizeOf entries := by
  have hlt := List.sizeOf_lt_of_mem he
  rw [Prod.mk.sizeOf_spec] at hlt
  omega

/-- Induction on values: what holds of the items of a list or the values of a mapping holds of the
whole. -/
theorem induction_parts {P : Value → Prop} (scalar : ∀ s, P (.scalar s))
    (list : ∀ items, (∀ v ∈ items, P v) → P (.list items))
    (tuple : ∀ items, (∀ v ∈ items, P v) → P (.tuple items))
    (map : ∀ entries, (∀ e ∈ entries, P e.2) → P (.map entries))
    (view : ∀ entries, (∀ e ∈ entries, P e.2) → P (.view entries))
    (set : ∀ members, P (.set members)) : ∀ v, P v
  | .scalar s => scalar s
  | .list items => list items fun v _ => induction_parts scalar list tuple map view set v
  | .tuple items => tuple items fun v _ => induction_parts scalar list tuple map view set v
  | .map entries => map entries fun e _ => induction_parts scalar list tuple map view set e.2
  | .view entries => view entries fun e _ => induction_parts scalar list tuple map view set e.2
  | .set members => set members
  termination_by v => sizeOf v
  decreasing_by
    · decreasing_tactic
    · decreasing_tactic
    · have := sizeOf_lt_of_mem ‹e ∈ entries›
      rw [Value.map.sizeOf_spec]
      omega
    · have := sizeOf_lt_of_mem ‹e ∈ entries›
      rw [Value.view.sizeOf_spec]
      omega

/-- The value is the other one or stands inside of it, at whatever depth. -/
inductive StandsIn (w : Value) : Value → Prop
  | self : StandsIn w w
  | listItem {items : List Value} {v : Value} (hv : v ∈ items) (h : StandsIn w v) :
    StandsIn w (.list items)
  | tupleItem {items : List Value} {v : Value} (hv : v ∈ items) (h : StandsIn w v) :
    StandsIn w (.tuple items)
  | mapEntry {entries : Entries} {e : Scalar × Value} (he : e ∈ entries) (h : StandsIn w e.2) :
    StandsIn w (.map entries)
  | viewEntry {entries : Entries} {e : Scalar × Value} (he : e ∈ entries) (h : StandsIn w e.2) :
    StandsIn w (.view entries)

/-- Whether the value is a list or a mapping that can be changed. -/
def takesItems : Value → Bool
  | .list _ | .map _ => true
  | _ => false

/-- There is no list and no changeable mapping in the value, at whatever depth. -/
def IsReadOnly (v : Value) : Prop := ∀ w, StandsIn w v → w.takesItems = false

lemma isReadOnly_scalar (s : Scalar) : IsReadOnly (.scalar s) := by
  rintro w ⟨⟩
  rfl

lemma isReadOnly_set (members : List Scalar) : IsReadOnly (.set members) := by
  rintro w ⟨⟩
  rfl

lemma isReadOnly_tuple : IsReadOnly (.tuple items) ↔ ∀ v ∈ items, v.IsReadOnly := by
  constructor
  · intro h v hv w hw
    exact h w (.tupleItem hv hw)
  · intro h w hw
    cases hw with
    | self => rfl
    | tupleItem hv hw => exact h _ hv w hw

lemma isReadOnly_view : IsReadOnly (.view entries) ↔ ∀ e ∈ entries, e.2.IsReadOnly := by
  constructor
  · intro h e he w hw
    exact h w (.viewEntry he hw)
  · intro h w hw
    cases hw with
    | self => rfl
    | viewEntry he hw => exact h _ he w hw

/-- Frozen values are read-only. -/
theorem isReadOnly_freeze (v : Value) : v.freeze.IsReadOnly := by
  induction v using induction_parts with
  | scalar s => exact isReadOnly_scalar s
  | set members => exact isReadOnly_set members
  | list items ih | tuple items ih =>
    rw [freeze, freezeItems_eq_map, isReadOnly_tuple]
    exact List.forall_mem_map.2 ih
  | map entries ih | view entries ih =>
    rw [freeze, freezeEntries_eq_map, isReadOnly_view]
    exact List.forall_mem_map.2 ih

namespace IsReadOnly

lemma takesItems_eq (h : v.IsReadOnly) : v.takesItems = false := h v .self

/-- A read-only value that is thawed and frozen again comes back. -/
theorem freeze_thaw (h : v.IsReadOnly) : v.thaw.freeze = v := by
  induction v using induction_parts with
  | scalar s => rfl
  | set members => rfl
  | list items | map entries => cases h.takesItems_eq
  | tuple items ih =>
    have hitems : ∀ v ∈ items, v.thaw.freeze = v := fun v hv => ih v hv (isReadOnly_tuple.1 h v hv)
    rw [thaw, freeze, thawItems_eq_map, freezeItems_eq_map, List.map_map]
    exact congrArg Value.tuple ((List.map_congr_left hitems).trans (List.map_id items))
  | view entries ih =>
    have hentries : ∀ e ∈ entries, (e.1, e.2.thaw.freeze) = e :=
      fun e he => Prod.ext rfl (ih e he (isReadOnly_view.1 h e he))
    rw [thaw, freeze, thawEntries_eq_map, freezeEntries_eq_map, List.map_map]
    exact congrArg Value.view ((List.map_congr_left hentries).trans (List.map_id entries))

end IsReadOnly

/-! ### Assignments -/

/-- What a path of keys and indices leads to. -/
def locate (v : Value) (path : List Scalar) : Except PlaceError Value := path.foldlM part v

/-- Why nothing is assigned below the place that a path leads to: what is there takes no items, or
there is no such place. -/
def refusal (v : Value) (path : List Scalar) : PlaceError :=
  match v.locate path with
  | .ok w => .noAssignment w.kindName
  | .error e => e

lemma place_lt {kind : Sequence} {length i : Nat} (h : place kind length key = .ok i) :
    i < length := by
  unfold place at h
  split at h
  · cases h
  · dsimp only at h
    split_ifs at h
    all_goals
      cases h
      omega

lemma mem_of_itemAt {kind : Sequence} (h : itemAt kind items key = .ok w) : w ∈ items := by
  obtain ⟨i, hi, h⟩ := bind_eq_ok.1 h
  have hlt := place_lt hi
  cases h
  rw [List.getD_eq_getElem?_getD, List.getElem?_eq_getElem hlt, Option.getD_some]
  exact List.getElem_mem hlt

lemma IsReadOnly.part (h : v.IsReadOnly) (hpart : v.part key = .ok w) : w.IsReadOnly := by
  unfold Value.part at hpart
  split at hpart
  · obtain ⟨c, -, rfl⟩ := List.mem_map.1 (mem_of_itemAt hpart)
    exact isReadOnly_scalar _
  · obtain ⟨b, -, rfl⟩ := List.mem_map.1 (mem_of_itemAt hpart)
    exact isReadOnly_scalar _
  · cases hpart
  · cases hpart
  · cases h.takesItems_eq
  · exact isReadOnly_tuple.1 h w (mem_of_itemAt hpart)
  · cases h.takesItems_eq
  · split at hpart
    · next entries _ hfound =>
      cases hpart
      obtain ⟨e, he, -, rfl⟩ := Entries.exists_of_get? hfound
      exact isReadOnly_view.1 h e he
    · cases hpart

lemma withPart_of_takesItems (h : v.takesItems = false) (key : Scalar) (new : Value) :
    v.withPart key new = .error (.noAssignment v.kindName) := by
  cases v <;> first | rfl | cases h

lemma assign_cons (hne : path ≠ []) (v : Value) (key : Scalar) (new : Value) :
    v.assign (key :: path) new = (do
      let changed ← (← v.part key).assign path new
      return v.exchange key changed) := by
  cases path with
  | nil => contradiction
  | cons k path => rfl

lemma refusal_cons_of_error {e : PlaceError} (h : v.part key = .error e) (path : List Scalar) :
    v.refusal (key :: path) = e := by
  rw [refusal, locate, List.foldlM_cons, h]
  rfl

lemma refusal_cons_of_ok (h : v.part key = .ok w) (path : List Scalar) :
    v.refusal (key :: path) = w.refusal path := by
  rw [refusal, locate, List.foldlM_cons, h]
  rfl

/-- An assignment inside a read-only value is refused, whatever the path. -/
theorem IsReadOnly.assign_eq (h : v.IsReadOnly) (path : List Scalar) (key : Scalar) (new : Value) :
    v.assign (path ++ [key]) new = .error (v.refusal path) := by
  induction path generalizing v with
  | nil => exact withPart_of_takesItems h.takesItems_eq key new
  | cons k path ih =>
    rw [List.cons_append, assign_cons (by simp)]
    cases hpart : v.part k with
    | error e =>
      rw [refusal_cons_of_error hpart]
      rfl
    | ok w =>
      rw [refusal_cons_of_ok hpart]
      exact bind_eq_error.2 (.inr ⟨w, rfl, by rw [ih (h.part hpart)]; rfl⟩)

end Value

namespace RunConfig

variable {name : String} {settings : Entries} {c : RunConfig}

/-- The settings of a configuration are frozen. -/
lemma settingsValue_build (h : build name settings = .ok c) :
    c.settingsValue = (Value.map settings).freeze := by
  rw [Value.freeze, settingsValue, (of_build_eq_ok h).2]

lemma assignSetting_of_isReadOnly (h : c.settingsValue.IsReadOnly)
    (path : List Scalar) (key : Scalar) (new : Value) :
    c.assignSetting path key new = (c, .error (c.settingsValue.refusal path)) := by
  rw [assignSetting, h.assign_eq]

end RunConfig

open Value (IsChangeable IsReadOnly)

/-- Freezing is deep: no list and no changeable mapping is left at any depth, so an assignment to a
place inside fails, because of what stands there or because nothing does. It loses nothing: plain
data comes back when it is thawed, in the order of its keys, and what was thawed freezes to the same
value again. A configuration is what it was after an assignment to any place in its settings, and
its changeable copy holds the settings that it was built from. -/
theorem freeze_deep_and_lossless :
    (∀ v : Value, v.freeze.IsReadOnly ∧
      (∀ path key new, v.freeze.assign (path ++ [key]) new = .error (v.freeze.refusal path)) ∧
      (v.IsChangeable → v.freeze.thaw = v) ∧ v.freeze.thaw.freeze = v.freeze) ∧
    ∀ name settings c, RunConfig.build name settings = .ok c →
      (∀ path key new,
        c.assignSetting path key new = (c, .error (c.settingsValue.refusal path))) ∧
      (IsChangeable (.map settings) → c.toEntries = settings) := by
  refine ⟨fun v => ?_, fun name settings c hc => ⟨fun path key new => ?_, fun h => ?_⟩⟩
  · have hfrozen := Value.isReadOnly_freeze v
    exact ⟨hfrozen, hfrozen.assign_eq, IsChangeable.thaw_freeze, hfrozen.freeze_thaw⟩
  · refine RunConfig.assignSetting_of_isReadOnly ?_ path key new
    rw [RunConfig.settingsValue_build hc]
    exact Value.isReadOnly_freeze _
  · exact RunConfig.toEntries_build h hc

/-- A mapping in a list in the settings cannot be assigned to, and neither can a list that is not
there. -/
theorem freeze_deep_and_lossless_nested :
    let viewport : Value := .list [.int 1, .map [(.str "b", .list []), (.str "a", .null)]]
    let settings : Entries := [(.str "viewport", viewport), (.int 2, .bool true)]
    let c : RunConfig := ⟨"qa", "", "", "qa", ⟨"", ""⟩, freezeEntries settings⟩
    IsChangeable (.map settings) ∧ RunConfig.build "qa" settings = .ok c ∧
      c.toEntries = settings ∧ viewport.freeze.thaw = viewport ∧
      c.assignSetting [.str "viewport", .int (-1)] (.str "a") (.int 3) =
        (c, .error (.noAssignment "mappingproxy")) ∧
      c.assignSetting [.str "viewport", .int 2] (.int 0) (.int 3) =
        (c, .error (.outOfRange .tuple)) := by
  intro viewport settings c
  have hviewport : viewport.IsChangeable := by
    refine .list ?_
    simp +decide [Entries.HasDistinctKeys, IsChangeable.list]
  have hsettings : IsChangeable (.map settings) := by
    simp +decide [settings, Entries.HasDistinctKeys, hviewport]
  obtain ⟨hvalues, hconfigs⟩ := freeze_deep_and_lossless
  have hc : RunConfig.build "qa" settings = .ok c := rfl
  obtain ⟨hassign, hcopy⟩ := hconfigs "qa" settings c hc
  exact ⟨hsettings, hc, hcopy hsettings, (hvalues viewport).2.2.1 hviewport, hassign _ _ _,
    hassign _ _ _⟩

end TaggedSuite
