import TaggedSuite.Config.Merge
import TaggedSuite.Proofs.Except
import TaggedSuite.Proofs.Value.Overlay

/-!
# Merging is laying over

Settings without a read-only part can be copied, so they come together. A setting of an overlay
leaves one value behind, which depends on the base settings alone: the value itself, or for the
environment section the two sections laid over one another. So merged settings are the overlay with
these values, laid over the base settings, and what is known about mappings laid over one another
carries over. Putting settings together from either end is the one law that asks for more: an
environment section in the middle that is no mapping hides the one below it from the one above it
only if it is put onto the lower one first.
-/
namespace TaggedSuite

/-- A keyed mapping is no read-only one. -/
lemma Value.IsKeyed.eq_map {v : Value} {entries : Entries} (h : v.IsKeyed)
    (hentries : v.entries? = some entries) : v = .map entries := by
  cases h with
  | map _ _ => exact congrArg Value.map (Option.some.inj hentries)
  | _ => cases hentries

lemma Value.IsKeyed.overlay {bottom top : Entries} (hbottom : IsKeyed (.map bottom))
    (htop : IsKeyed (.map top)) : IsKeyed (.map (bottom.overlay top)) := by
  refine .map (hbottom.distinct.overlay top) fun e he => ?_
  rcases Entries.mem_overlay he with he | ⟨d, hd, hvalue⟩
  · exact hbottom.value he
  · exact hvalue ▸ htop.value hd

lemma Value.isKeyed_scalar (s : Scalar) : IsKeyed (.scalar s) := .scalar s

lemma Value.isKeyed_map {entries : Entries} :
    IsKeyed (.map entries) ↔ entries.HasDistinctKeys ∧ ∀ e ∈ entries, IsKeyed e.2 :=
  ⟨fun h => ⟨h.distinct, fun _ => h.value⟩, fun h => .map h.1 h.2⟩

/-! ### Copies -/

lemma areCopyable_iff {items : List Value} :
    areCopyable items = true ↔ ∀ v ∈ items, v.isCopyable = true := by
  induction items with
  | nil => simp [areCopyable]
  | cons v items ih => rw [areCopyable, Bool.and_eq_true, ih, List.forall_mem_cons]

lemma haveCopies_iff {entries : Entries} :
    haveCopies entries = true ↔ ∀ e ∈ entries, e.2.isCopyable = true := by
  induction entries with
  | nil => simp [haveCopies]
  | cons e entries ih => rw [haveCopies, Bool.and_eq_true, ih, List.forall_mem_cons]

lemma Value.IsKeyed.isCopyable {v : Value} (h : v.IsKeyed) : v.isCopyable = true := by
  induction h with
  | scalar _ | set _ => rfl
  | list _ ih | tuple _ ih => rwa [Value.isCopyable, areCopyable_iff]
  | map _ _ ih => rwa [Value.isCopyable, haveCopies_iff]

lemma Value.IsKeyed.haveCopies {entries : Entries} (h : IsKeyed (.map entries)) :
    haveCopies entries = true :=
  h.isCopyable

lemma Entries.copy_of_haveCopies {entries : Entries} (h : haveCopies entries = true) :
    entries.copy = .ok entries :=
  if_pos h

lemma Value.copy_of_isCopyable {v : Value} (h : v.isCopyable = true) : v.copy = .ok v := if_pos h

namespace Settings

open Entries (IsOverlay HasDistinctKeys)

variable {a b c base top : Entries} {key : Scalar} {v : Value}

/-- The settings that an overlay gives over base settings. -/
structure IsMerged (base top merged : Entries) : Prop where
  keys : merged.keys = base.keys ++ top.keys.filter fun key => !base.contains key
  setting : ∀ key ≠ envKey, merged.get? key = (top.get? key).or (base.get? key)
  /-- Two environment sections that are mappings are laid over one another. -/
  sections : ∀ lower upper, (base.get? envKey).bind Value.entries? = some lower →
    (top.get? envKey).bind Value.entries? = some upper →
    ∃ whole, merged.get? envKey = some (.map whole) ∧ IsOverlay lower upper whole
  /-- Otherwise that of the overlay stands alone if it has one. -/
  other : (base.get? envKey).bind Value.entries? = none ∨
      (top.get? envKey).bind Value.entries? = none →
    merged.get? envKey = (top.get? envKey).or (base.get? envKey)

/-! ### The environment section -/

/-- The environment section of merged settings, told from those of the two sides. -/
def mergedSection (lower upper : Option Value) : Option Value :=
  match lower.bind Value.entries?, upper.bind Value.entries? with
  | some below, some above => some (.map (Entries.overlay below above))
  | _, _ => upper.or lower

/-- The keys in a section that is a mapping are distinct. -/
def IsKeyedSection (env : Option Value) : Prop :=
  ∀ entries, env.bind Value.entries? = some entries → HasDistinctKeys entries

lemma isKeyedSection (h : Value.IsKeyed (.map a)) : IsKeyedSection (a.get? envKey) := by
  intro entries hentries
  obtain ⟨env, henv, hsome⟩ := Option.bind_eq_some_iff.1 hentries
  obtain ⟨e, he, -, rfl⟩ := Entries.exists_of_get? henv
  exact ((h.value he).eq_map hsome ▸ h.value he).distinct

lemma mergedSection_of_mappings {lower upper : Option Value} {below above : Entries}
    (hlower : lower.bind Value.entries? = some below)
    (hupper : upper.bind Value.entries? = some above) :
    mergedSection lower upper = some (.map (Entries.overlay below above)) := by
  rw [mergedSection, hlower, hupper]

lemma mergedSection_of_other {lower upper : Option Value}
    (h : lower.bind Value.entries? = none ∨ upper.bind Value.entries? = none) :
    mergedSection lower upper = upper.or lower := by
  rw [mergedSection]
  rcases h with h | h <;> rw [h]
  cases lower.bind Value.entries? <;> rfl

lemma mergedSection_none (lower : Option Value) : mergedSection lower none = lower := by
  rw [mergedSection_of_other (.inr rfl), Option.none_or]

lemma none_mergedSection (upper : Option Value) : mergedSection none upper = upper := by
  rw [mergedSection_of_other (.inl rfl), Option.or_none]

lemma mergedSection_self (h : v.IsKeyed) : mergedSection (some v) (some v) = some v := by
  cases h with
  | map hdistinct _ =>
    rw [mergedSection_of_mappings rfl rfl, hdistinct.overlay_of_keys rfl]
  | _ => rfl

/-- What is put on top replaces both other sections, or neither, if it is no mapping. -/
lemma mergedSection_assoc_of_other {upper : Option Value} (lower middle : Option Value)
    (h : upper.bind Value.entries? = none) :
    mergedSection (mergedSection lower middle) upper =
      mergedSection lower (mergedSection middle upper) := by
  rw [mergedSection_of_other (.inr h), mergedSection_of_other (.inr h)]
  cases upper with
  | none => rw [Option.none_or, Option.none_or]
  | some w =>
    rw [Option.some_or, Option.some_or, mergedSection_of_other (.inr h)]
    rfl

/-- Sections are put together from either end, unless the middle one is there without being a
mapping. -/
lemma mergedSection_assoc {lower middle upper : Option Value} (hlower : IsKeyedSection lower)
    (hmiddle : IsKeyedSection middle) (hupper : IsKeyedSection upper)
    (hmapping : ∀ env, middle = some env → env.isMapping = true) :
    mergedSection (mergedSection lower middle) upper =
      mergedSection lower (mergedSection middle upper) := by
  cases habove : upper.bind Value.entries? with
  | none => exact mergedSection_assoc_of_other lower middle habove
  | some above =>
    cases middle with
    | none => rw [mergedSection_none, none_mergedSection]
    | some u =>
      obtain ⟨between, hbetween⟩ := Option.isSome_iff_exists.1 (hmapping u rfl)
      have hu : (some u).bind Value.entries? = some between := hbetween
      rw [mergedSection_of_mappings hu habove]
      cases hbelow : lower.bind Value.entries? with
      | none =>
        -- the lower section is no mapping, so everything put over it hides it
        rw [mergedSection_of_other (.inl hbelow), mergedSection_of_other (.inl hbelow),
          Option.some_or, Option.some_or, mergedSection_of_mappings hu habove]
      | some below =>
        rw [mergedSection_of_mappings hbelow hu, mergedSection_of_mappings rfl habove,
          mergedSection_of_mappings hbelow rfl,
          (hlower below hbelow).overlay_assoc (hmiddle between hu) (hupper above habove)]

/-! ### Merging in one step -/

/-- The value that a setting of an overlay leaves behind. -/
def mergedValue (base : Entries) (key : Scalar) (v : Value) : Value :=
  if key = envKey then (mergedSection (base.get? envKey) (some v)).getD v else v

lemma mergedValue_of_ne (hkey : key ≠ envKey) (base : Entries) (v : Value) :
    mergedValue base key v = v :=
  if_neg hkey

lemma mergedValue_congr (h : a.get? envKey = b.get? envKey) (key : Scalar) (v : Value) :
    mergedValue a key v = mergedValue b key v := by
  rw [mergedValue, mergedValue, h]

/-- The base settings with an overlay on top, of which nothing has to be copied. -/
def layer (base overlay : Entries) : Entries :=
  overlay.foldl (fun acc e => acc.insert e.1 (mergedValue acc e.1 e.2)) base

lemma mergeEntry_eq_ok (h : v.isCopyable = true) (base : Entries) (key : Scalar) :
    mergeEntry base key v = .ok (base.insert key (mergedValue base key v)) := by
  have hcopy := Value.copy_of_isCopyable h
  by_cases hkey : key = envKey
  · subst hkey
    cases htop : v.entries? with
    | none => simp [mergeEntry, mergedValue, mergedSection, htop, hcopy]
    | some top =>
      obtain rfl : v = .map top := by
        cases v with
        | map _ => exact congrArg Value.map (Option.some.inj htop)
        | view _ => cases h
        | _ => cases htop
      have hentries := Entries.copy_of_haveCopies h
      cases hbottom : (base.get? envKey).bind Value.entries? <;>
        simp [mergeEntry, mergedValue, mergedSection, Value.entries?, hbottom, hcopy, hentries]
  · have hne : (key == envKey) = false := beq_eq_false_iff_ne.2 hkey
    rw [mergedValue_of_ne hkey]
    simp only [mergeEntry, hne, hcopy]
    rfl

/-- Settings without a read-only part come together. -/
lemma merge_eq_ok (hbase : haveCopies base = true) (htop : haveCopies top = true) :
    merge base top = .ok (layer base top) := by
  rw [merge, Entries.copy_of_haveCopies hbase, layer]
  change List.foldlM _ base top = _
  clear hbase
  induction top generalizing base with
  | nil => rfl
  | cons e top ih =>
    obtain ⟨hfirst, hrest⟩ := List.forall_mem_cons.1 (haveCopies_iff.1 htop)
    rw [List.foldlM_cons, mergeEntry_eq_ok hfirst]
    exact ih (haveCopies_iff.2 hrest)

/-- The settings of an overlay with the values that they leave behind. -/
def mergedTop (base top : Entries) : Entries := top.map fun e => (e.1, mergedValue base e.1 e.2)

lemma keys_mergedTop (base top : Entries) : (mergedTop base top).keys = top.keys := by
  simp [Entries.keys, mergedTop, Function.comp_def]

lemma distinct_mergedTop (h : top.HasDistinctKeys) (base : Entries) :
    (mergedTop base top).HasDistinctKeys := by
  rw [Entries.hasDistinctKeys_iff] at h ⊢
  rwa [keys_mergedTop]

lemma get?_mergedTop (base top : Entries) (key : Scalar) :
    (mergedTop base top).get? key = (top.get? key).map (mergedValue base key) := by
  induction top with
  | nil => rfl
  | cons e top ih =>
    rw [mergedTop, List.map_cons, Entries.get?, Entries.get?]
    split_ifs with hsame
    · by_cases hkey : key = envKey
      · rw [hkey] at hsame ⊢
        rw [Scalar.sameKey_str.1 hsame]
        rfl
      · have hfirst : e.1 ≠ envKey := by
          intro hfirst
          rw [hfirst, Scalar.sameKey_comm] at hsame
          exact hkey (Scalar.sameKey_str.1 hsame)
        rw [Option.map_some, mergedValue_of_ne hfirst, mergedValue_of_ne hkey]
    · exact ih

/-- Settings under an overlay are the settings it leaves behind, laid over them. -/
lemma layer_eq_overlay (h : top.HasDistinctKeys) (base : Entries) :
    layer base top = base.overlay (mergedTop base top) := by
  induction top generalizing base with
  | nil => rfl
  | cons e top ih =>
    obtain ⟨hfirst, hrest⟩ := List.pairwise_cons.1 h
    -- a setting put over the others does not change what those to come leave behind
    have hlater :
        mergedTop (base.insert e.1 (mergedValue base e.1 e.2)) top = mergedTop base top := by
      refine List.map_congr_left fun d hd => ?_
      by_cases hkey : d.1 = envKey
      · have hsection : (base.insert e.1 (mergedValue base e.1 e.2)).get? envKey =
            base.get? envKey := by
          rw [Entries.get?_insert, ← hkey, hfirst d hd]
          rfl
        rw [mergedValue_congr hsection]
      · rw [mergedValue_of_ne hkey, mergedValue_of_ne hkey]
    have hstep : layer base (e :: top) =
        layer (base.insert e.1 (mergedValue base e.1 e.2)) top := rfl
    rw [hstep, ih hrest, hlater]
    rfl

lemma keys_layer (h : top.HasDistinctKeys) (base : Entries) :
    (layer base top).keys = base.keys ++ top.keys.filter fun key => !base.contains key := by
  rw [layer_eq_overlay h, (distinct_mergedTop h base).keys_overlay, keys_mergedTop]

lemma get?_layer_of_ne (h : top.HasDistinctKeys) (base : Entries) (hkey : key ≠ envKey) :
    (layer base top).get? key = (top.get? key).or (base.get? key) := by
  have hvalue : mergedValue base key = id := by
    funext v
    exact mergedValue_of_ne hkey base v
  rw [layer_eq_overlay h, (distinct_mergedTop h base).get?_overlay, get?_mergedTop, hvalue,
    Option.map_id, id]

lemma get?_layer_env (h : top.HasDistinctKeys) (base : Entries) :
    (layer base top).get? envKey = mergedSection (base.get? envKey) (top.get? envKey) := by
  rw [layer_eq_overlay h, (distinct_mergedTop h base).get?_overlay, get?_mergedTop]
  cases htop : top.get? envKey with
  | none =>
    rw [mergedSection_none]
    rfl
  | some v =>
    simp only [Option.map_some, Option.some_or, mergedValue, if_true, mergedSection,
      Option.bind_some]
    cases (base.get? envKey).bind Value.entries? <;> cases v.entries? <;> rfl

lemma distinct_layer (h : base.HasDistinctKeys) (htop : top.HasDistinctKeys) :
    (layer base top).HasDistinctKeys := by
  rw [layer_eq_overlay htop]
  exact h.overlay _

/-! ### What the values keep -/

section
variable {P : Value → Prop} (hoverlay : ∀ {lower upper : Value} {below above : Entries},
  P lower → lower.entries? = some below → P upper → upper.entries? = some above →
    P (.map (below.overlay above)))
include hoverlay

lemma of_mergedSection {lower upper : Option Value} {w : Value} (hlower : ∀ v, lower = some v → P v)
    (hupper : ∀ v, upper = some v → P v) (h : mergedSection lower upper = some w) : P w := by
  rw [mergedSection] at h
  split at h
  · next below above hbelow habove =>
    obtain ⟨v, hv, hentries⟩ := Option.bind_eq_some_iff.1 hbelow
    obtain ⟨v', hv', hentries'⟩ := Option.bind_eq_some_iff.1 habove
    exact Option.some.inj h ▸ hoverlay (hlower v hv) hentries (hupper v' hv') hentries'
  · rcases Option.or_eq_some_iff.1 h with h | ⟨-, h⟩
    · exact hupper w h
    · exact hlower w h

lemma of_mergedValue (hbase : ∀ e ∈ base, P e.2) (hv : P v) (key : Scalar) :
    P (mergedValue base key v) := by
  rw [mergedValue]
  split_ifs
  · cases hsection : mergedSection (base.get? envKey) (some v) with
    | none => exact hv
    | some w =>
      refine of_mergedSection hoverlay (fun u hu => ?_) ?_ hsection
      · obtain ⟨e, he, -, rfl⟩ := Entries.exists_of_get? hu
        exact hbase e he
      · rintro _ ⟨⟩
        exact hv
  · exact hv

/-- What holds of the values on both sides holds of the values of merged settings, if mappings keep
it when they are laid over one another. -/
lemma forall_mem_layer (hbase : ∀ e ∈ base, P e.2) (htop : ∀ e ∈ top, P e.2) :
    ∀ e ∈ layer base top, P e.2 := by
  rw [layer]
  induction top generalizing base with
  | nil => exact hbase
  | cons d top ih =>
    obtain ⟨hfirst, hrest⟩ := List.forall_mem_cons.1 htop
    refine ih (fun e he => ?_) hrest
    rcases Entries.mem_insert he with he | hvalue
    · exact hbase e he
    · exact hvalue ▸ of_mergedValue hoverlay hbase hfirst d.1

end

lemma isKeyed_layer (hbase : Value.IsKeyed (.map base)) (htop : Value.IsKeyed (.map top)) :
    Value.IsKeyed (.map (layer base top)) := by
  refine .map (distinct_layer hbase.distinct htop.distinct)
    (forall_mem_layer ?_ (fun e => hbase.value) fun e => htop.value)
  intro lower upper below above hlower hbelow hupper habove
  obtain rfl := hlower.eq_map hbelow
  obtain rfl := hupper.eq_map habove
  exact hlower.overlay hupper

/-! ### The laws -/

lemma isMerged_layer (base : Entries) (htop : Value.IsKeyed (.map top)) :
    IsMerged base top (layer base top) where
  keys := keys_layer htop.distinct base
  setting _ hkey := get?_layer_of_ne htop.distinct base hkey
  sections lower upper hlower hupper := by
    rw [get?_layer_env htop.distinct, mergedSection_of_mappings hlower hupper]
    exact ⟨_, rfl, (isKeyedSection htop upper hupper).isOverlay lower⟩
  other h := by rw [get?_layer_env htop.distinct, mergedSection_of_other h]

/-- Settings over none are themselves. -/
lemma layer_empty (h : a.HasDistinctKeys) : layer [] a = a := by
  refine HasDistinctKeys.ext (distinct_layer .nil h) ?_ fun key _ => ?_
  · rw [keys_layer h]
    exact List.filter_true _
  · by_cases hkey : key = envKey
    · rw [hkey, get?_layer_env h]
      exact none_mergedSection _
    · rw [get?_layer_of_ne h _ hkey]
      exact Option.or_none

/-- Settings over themselves stay the same. -/
lemma layer_self (h : Value.IsKeyed (.map a)) : layer a a = a := by
  rw [layer_eq_overlay h.distinct,
    (distinct_mergedTop h.distinct a).overlay_of_keys (keys_mergedTop a a)]
  have hvalue : ∀ e ∈ a, (e.1, mergedValue a e.1 e.2) = e := by
    intro e he
    by_cases hkey : e.1 = envKey
    · have henv : a.get? envKey = some e.2 := hkey ▸ h.distinct.get?_of_mem he
      rw [mergedValue, if_pos hkey, henv, mergedSection_self (h.value he)]
      rfl
    · rw [mergedValue_of_ne hkey]
  exact (List.map_congr_left hvalue).trans (List.map_id a)

/-- Three settings are put together from either end if their environment sections are. -/
lemma layer_assoc_of_sections (ha : a.HasDistinctKeys) (hb : b.HasDistinctKeys)
    (hc : c.HasDistinctKeys)
    (hsections : mergedSection (mergedSection (a.get? envKey) (b.get? envKey)) (c.get? envKey) =
      mergedSection (a.get? envKey) (mergedSection (b.get? envKey) (c.get? envKey))) :
    layer (layer a b) c = layer a (layer b c) := by
  have hab := distinct_layer ha hb
  have hbc := distinct_layer hb hc
  refine HasDistinctKeys.ext (distinct_layer hab hc) ?_ fun key _ => ?_
  · rw [keys_layer hc, keys_layer hbc]
    exact Entries.keys_assoc (keys_layer hb a) (keys_layer hc b)
  · by_cases hkey : key = envKey
    · rw [hkey, get?_layer_env hc, get?_layer_env hb, get?_layer_env hbc, get?_layer_env hc,
        hsections]
    · rw [get?_layer_of_ne hc _ hkey, get?_layer_of_ne hb _ hkey, get?_layer_of_ne hbc _ hkey,
        get?_layer_of_ne hc _ hkey, Option.or_assoc]

lemma layer_assoc (ha : Value.IsKeyed (.map a)) (hb : Value.IsKeyed (.map b))
    (hc : Value.IsKeyed (.map c)) (hmapping : ∀ env, b.get? envKey = some env → env.isMapping) :
    layer (layer a b) c = layer a (layer b c) :=
  layer_assoc_of_sections ha.distinct hb.distinct hc.distinct
    (mergedSection_assoc (isKeyedSection ha) (isKeyedSection hb) (isKeyedSection hc) hmapping)

/-- Merging lays an overlay over base settings, with an environment section of its own. Settings
stay the same over none, under none, and over themselves. Three settings are put together from
either end, unless the middle ones have an environment section that is no mapping. Read-only
settings are left out: they cannot be merged, as they cannot be copied. -/
theorem merge_overlays (ha : Value.IsKeyed (.map a)) (hb : Value.IsKeyed (.map b))
    (hc : Value.IsKeyed (.map c)) :
    (∃ merged, merge a b = .ok merged ∧ IsMerged a b merged) ∧
      merge [] a = .ok a ∧ merge a [] = .ok a ∧ merge a a = .ok a ∧
      ((∀ env, b.get? envKey = some env → env.isMapping) →
        ∃ merged, (do merge (← merge a b) c) = .ok merged ∧
          (do merge a (← merge b c)) = .ok merged) := by
  have hab := merge_eq_ok ha.haveCopies hb.haveCopies
  have hbc := merge_eq_ok hb.haveCopies hc.haveCopies
  refine ⟨⟨layer a b, hab, isMerged_layer a hb⟩, ?_, ?_, ?_, fun hmapping => ?_⟩
  · rw [merge_eq_ok rfl ha.haveCopies, layer_empty ha.distinct]
  · exact merge_eq_ok ha.haveCopies rfl
  · rw [merge_eq_ok ha.haveCopies ha.haveCopies, layer_self ha]
  · refine ⟨layer (layer a b) c, ?_, ?_⟩
    · rw [hab]
      exact merge_eq_ok (isKeyed_layer ha hb).haveCopies hc.haveCopies
    · rw [hbc, layer_assoc ha hb hc hmapping]
      exact merge_eq_ok ha.haveCopies (isKeyed_layer hb hc).haveCopies

/-- Two sections share a key, the one on top is none, and a key is spelled in two ways. -/
theorem merge_overlays_sections :
    let a : Entries := [(.str "timeout", .int 5),
      (.str "env", .map [(.str "baseUrl", .str "https://a.test"), (.str "username", .str "ana")])]
    let b : Entries := [(.str "env", .map [(.str "username", .str "bo"), (.str "retry", .null)]),
      (.int 1, .null), (.str "timeout", .int 9)]
    let c : Entries := [(.str "env", .null), (.bool true, .str "on")]
    (Value.IsKeyed (.map a) ∧ Value.IsKeyed (.map b) ∧ Value.IsKeyed (.map c)) ∧
      (∀ env, b.get? envKey = some env → env.isMapping) ∧
      (∃ merged, merge a b = .ok merged ∧ IsMerged a b merged) ∧
      merge [] a = .ok a ∧ merge a [] = .ok a ∧ merge a a = .ok a ∧
      ∃ merged, (do merge (← merge a b) c) = .ok merged ∧
        (do merge a (← merge b c)) = .ok merged := by
  intro a b c
  have ha : Value.IsKeyed (.map a) := by
    simp +decide [a, Value.isKeyed_map, Value.isKeyed_scalar, HasDistinctKeys]
  have hb : Value.IsKeyed (.map b) := by
    simp +decide [b, Value.isKeyed_map, Value.isKeyed_scalar, HasDistinctKeys]
  have hc : Value.IsKeyed (.map c) := by
    simp +decide [c, Value.isKeyed_map, Value.isKeyed_scalar, HasDistinctKeys]
  have hmapping : ∀ env, b.get? envKey = some env → env.isMapping := by
    rintro _ ⟨⟩
    rfl
  obtain ⟨hmerged, hempty, hnone, hself, hassoc⟩ := merge_overlays ha hb hc
  exact ⟨⟨ha, hb, hc⟩, hmapping, hmerged, hempty, hnone, hself, hassoc hmapping⟩

-- a section in the middle that is none: what is on top replaces it, or is laid over the lower one
example :
    let a : Entries := [(.str "env", .map [(.str "username", .str "ana")])]
    let b : Entries := [(.str "env", .null)]
    let c : Entries := [(.str "env", .map [(.str "retry", .int 2)])]
    (do merge (← merge a b) c) = .ok [(.str "env", .map [(.str "retry", .int 2)])] ∧
      (do merge a (← merge b c)) =
        .ok [(.str "env", .map [(.str "username", .str "ana"), (.str "retry", .int 2)])] :=
  ⟨rfl, rfl⟩

end Settings

end TaggedSuite
