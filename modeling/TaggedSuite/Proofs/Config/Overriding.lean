import TaggedSuite.Proofs.Config.Surface
import TaggedSuite.Proofs.Except

/-!
# Overriding settings of a configuration

To override settings is to merge them onto those of the configuration and to build it anew, with one
exception: an environment section that is a mapping cannot be put over one that is there and is
none. Which section a configuration has can be told from the settings that it was made from: it is
the one that was given last, as far as that is no mapping. So a chain of overrides comes down to
merging as long as every section that is given is a mapping. It breaks where a mapping follows a
section that is none, and where a field of the configuration is left without a text.
-/
namespace TaggedSuite

namespace Settings

variable {settings : Entries} {lower lower' upper : Option Value} {v : Value}

/-- The environment section is a mapping if there is one. -/
def SectionIsMapping (settings : Entries) : Prop :=
  ∀ env, settings.get? envKey = some env → env.isMapping = true

/-- An environment section that is no mapping. -/
def obstacle? (env : Option Value) : Option Value := env.filter fun v => !v.isMapping

/-- The environment section that is in the way of another one, which is put over it. -/
def clash? (lower upper : Option Value) : Option Value :=
  if upper.any Value.isMapping then obstacle? lower else none

/-- The environment section that was given last. -/
def lastSection (rows : List Entries) : Option Value :=
  rows.foldl (fun last row => (row.get? envKey).or last) none

lemma obstacle?_eq_some : obstacle? lower = some v ↔ lower = some v ∧ v.isMapping = false := by
  rw [obstacle?, Option.filter_eq_some_iff, Bool.not_eq_true']

lemma obstacle?_eq_none : obstacle? (settings.get? envKey) = none ↔ SectionIsMapping settings := by
  simp [obstacle?, Option.filter_eq_none_iff, SectionIsMapping]

lemma obstacle?_of_isMapping (h : v.isMapping = true) : obstacle? (some v) = none := by
  rw [obstacle?, Option.filter_some, h]
  rfl

lemma clash?_eq_some : clash? lower upper = some v ↔
    (∃ w, upper = some w ∧ w.isMapping = true) ∧ lower = some v ∧ v.isMapping = false := by
  rw [clash?, ← Option.any_eq_true, ← obstacle?_eq_some]
  split_ifs with h <;> simp [h]

/-- Nothing is in the way of a section that is put over a mapping, or that is none itself. -/
lemma clash?_eq_none : clash? (settings.get? envKey) upper = none ↔
    SectionIsMapping settings ∨ ∀ v, upper = some v → v.isMapping = false := by
  rw [clash?, ← obstacle?_eq_none]
  cases upper with
  | none => simp
  | some v => cases hv : v.isMapping <;> simp [hv]

lemma clash?_congr (h : obstacle? lower = obstacle? lower') (upper : Option Value) :
    clash? lower upper = clash? lower' upper := by
  rw [clash?, clash?, h]

/-- Of two sections that are put over one another, the lower one is in nobody's way. -/
lemma obstacle?_mergedSection (lower upper : Option Value) :
    obstacle? (mergedSection lower upper) = obstacle? (upper.or lower) := by
  cases habove : upper.bind Value.entries? with
  | none => rw [mergedSection_of_other (.inr habove)]
  | some above =>
    cases hbelow : lower.bind Value.entries? with
    | none => rw [mergedSection_of_other (.inl hbelow)]
    | some below =>
      obtain ⟨w, rfl, hw⟩ := Option.bind_eq_some_iff.1 habove
      have hmapping : w.isMapping = true := by rw [Value.isMapping, hw, Option.isSome_some]
      rw [mergedSection_of_mappings hbelow habove, Option.some_or]
      rw [obstacle?_of_isMapping rfl, obstacle?_of_isMapping hmapping]

lemma obstacle?_or_congr (h : obstacle? lower = obstacle? lower') (upper : Option Value) :
    obstacle? (upper.or lower) = obstacle? (upper.or lower') := by
  cases upper with
  | none => rwa [Option.none_or, Option.none_or]
  | some w => rfl

/-- A mapping on top is found in the merged section as a whole. -/
lemma exists_mergedSection {w : Value} {top : Entries} (hw : w.IsChangeable)
    (htop : w.entries? = some top) (lower : Option Value) :
    ∃ whole : Entries, mergedSection lower (some w) = some (.map whole) ∧
      ∀ key v, top.get? key = some v → whole.get? key = some v := by
  obtain rfl := hw.eq_map htop
  cases hbelow : lower.bind Value.entries? with
  | none => exact ⟨top, mergedSection_of_other (.inl hbelow), fun _ _ h => h⟩
  | some below =>
    refine ⟨_, mergedSection_of_mappings hbelow rfl, fun key v hv => ?_⟩
    rw [hw.distinct.get?_overlay, hv, Option.some_or]

/-- Over a mapping, a section is as much in the way as it is alone. -/
lemma obstacle?_layer {base top : Entries} (htop : top.HasDistinctKeys)
    (hbase : SectionIsMapping base) :
    obstacle? ((layer base top).get? envKey) = obstacle? (top.get? envKey) := by
  have hnone : obstacle? (base.get? envKey) = obstacle? none := obstacle?_eq_none.2 hbase
  rw [get?_layer_env htop, obstacle?_mergedSection, obstacle?_or_congr hnone, Option.or_none]

/-- Settings are put together from either end if nothing in the middle is in the way. -/
lemma layer_assoc_of_clash?_eq_none {base middle top : Entries}
    (hbase : Value.IsKeyed (.map base)) (hmiddle : Value.IsKeyed (.map middle))
    (htop : Value.IsKeyed (.map top))
    (hfree : clash? (middle.get? envKey) (top.get? envKey) = none) :
    layer (layer base middle) top = layer base (layer middle top) := by
  rcases clash?_eq_none.1 hfree with hmapping | hother
  · exact layer_assoc hbase hmiddle htop hmapping
  · refine layer_assoc_of_sections hbase.distinct hmiddle.distinct htop.distinct
      (mergedSection_assoc_of_other _ _ ?_)
    rw [Option.bind_eq_none_iff]
    intro v hv
    rw [← Option.isNone_iff_eq_none, ← Option.not_isSome, ← Value.isMapping, hother v hv]
    rfl

lemma lastSection_append (rows : List Entries) (row : Entries) :
    lastSection (rows ++ [row]) = (row.get? envKey).or (lastSection rows) := by
  rw [lastSection, List.foldl_append]
  rfl

end Settings

namespace RunConfig

open Settings (envKey SectionIsMapping obstacle? clash? lastSection mergedValue)
open Value (IsChangeable)

variable {c d : RunConfig} {name : String} {settings overrides : Entries} {key : Scalar} {v : Value}
  {f : SettingsFault}

/-! ### One call -/

lemma overrideEntry_of_ne (hkey : key ≠ envKey) (hv : v.IsChangeable) (settings : Entries) :
    overrideEntry settings key v = .ok (settings.insert key (mergedValue settings key v)) := by
  have hne : (key == envKey) = false := beq_eq_false_iff_ne.2 hkey
  have hcopy := Value.copy_of_isCopyable hv.isKeyed.isCopyable
  rw [Settings.mergedValue_of_ne hkey]
  simp only [overrideEntry, hne, hcopy]
  rfl

lemma overrideEntry_env (hv : v.IsChangeable) (settings : Entries) :
    overrideEntry settings envKey v =
      (clash? (settings.get? envKey) (some v)).elim
        (.ok (settings.insert envKey (mergedValue settings envKey v)))
        fun u => .error (.notMapping u.kindName) := by
  have hcopy := Value.copy_of_isCopyable hv.isKeyed.isCopyable
  cases htop : v.entries? with
  | none =>
    simp [overrideEntry, mergedValue, Settings.mergedSection, clash?, Value.isMapping, htop, hcopy]
  | some top =>
    cases hbottom : settings.get? envKey with
    | none =>
      -- a section that is the first one stands as it is
      obtain rfl := hv.eq_map htop
      have hfirst : Entries.overlay [] top = top := hv.distinct.nil_overlay
      simp [overrideEntry, mergedValue, Settings.mergedSection, clash?, obstacle?, Value.entries?,
        hbottom, hfirst]
    | some u =>
      cases hu : u.entries? <;>
        simp [overrideEntry, mergedValue, Settings.mergedSection, clash?, obstacle?,
          Value.isMapping, htop, hbottom, hu, Option.filter]

/-- No two overrides are for the environment section, so what is in the way of one is there from the
start. -/
lemma foldlM_overrideEntry (hplain : IsChangeable (.map overrides)) (settings : Entries) :
    overrides.foldlM (fun acc e => overrideEntry acc e.1 e.2) settings =
      (clash? (settings.get? envKey) (overrides.get? envKey)).elim
        (.ok (Settings.layer settings overrides)) fun u => .error (.notMapping u.kindName) := by
  induction overrides generalizing settings with
  | nil => rfl
  | cons e rest ih =>
    obtain ⟨key, v⟩ := e
    obtain ⟨hdistinct, hvalues⟩ := Value.isChangeable_map.1 hplain
    obtain ⟨hfirst, hrest⟩ := List.pairwise_cons.1 hdistinct
    obtain ⟨hv, hvalues⟩ := List.forall_mem_cons.1 hvalues
    have ih := ih (.map hrest hvalues)
    rw [List.foldlM_cons]
    by_cases hkey : key = envKey
    · subst hkey
      have hnone : Entries.get? rest envKey = none := by
        rw [Option.eq_none_iff_forall_ne_some]
        intro w hw
        obtain ⟨d, hd, hsame, -⟩ := Entries.exists_of_get? hw
        rw [Scalar.sameKey_comm, hfirst d hd] at hsame
        contradiction
      have hsome : Entries.get? ((envKey, v) :: rest) envKey = some v := by
        simp [Entries.get?]
      rw [overrideEntry_env hv, hsome]
      cases clash? (settings.get? envKey) (some v) with
      | some u => rfl
      | none =>
        have hfree (env : Option Value) : clash? env none = none := rfl
        exact (ih _).trans (by rw [hnone, hfree]; rfl)
    · have hother : ¬ key.sameKey envKey = true := fun hsame => hkey (Scalar.sameKey_str.1 hsame)
      have hkept : (settings.insert key (mergedValue settings key v)).get? envKey =
          settings.get? envKey := by
        rw [Entries.get?_insert, if_neg hother]
      have hsame : Entries.get? ((key, v) :: rest) envKey = Entries.get? rest envKey := by
        rw [Entries.get?, if_neg hother]
      rw [overrideEntry_of_ne hkey hv, hsame]
      exact (ih _).trans (by rw [hkept]; rfl)

/-- To override settings is to merge them, unless the environment section is in the way. -/
lemma withOverrides_eq (hplain : IsChangeable (.map overrides)) (c : RunConfig) :
    c.withOverrides overrides =
      (clash? (c.toEntries.get? envKey) (overrides.get? envKey)).elim
        (build c.name (Settings.layer c.toEntries overrides))
        fun u => .error (.notMapping u.kindName) := by
  rw [withOverrides, overridden, foldlM_overrideEntry hplain]
  cases clash? (c.toEntries.get? envKey) (overrides.get? envKey) <;> rfl

lemma withOverrides_of_sectionIsMapping (hplain : IsChangeable (.map overrides))
    (hsection : SectionIsMapping c.toEntries) :
    c.withOverrides overrides = build c.name (Settings.layer c.toEntries overrides) := by
  have hfree : clash? (c.toEntries.get? envKey) (overrides.get? envKey) = none := by
    rw [clash?, Settings.obstacle?_eq_none.2 hsection, ite_self]
  rw [withOverrides_eq hplain, hfree]
  rfl

/-- A call fails because of what is in the way, or else because a field has no text. -/
lemma withOverrides_eq_error (hc : IsChangeable (.map c.toEntries))
    (hplain : IsChangeable (.map overrides)) :
    c.withOverrides overrides = .error f ↔
      (∃ u, clash? (c.toEntries.get? envKey) (overrides.get? envKey) = some u ∧
        f = .notMapping u.kindName) ∨
      clash? (c.toEntries.get? envKey) (overrides.get? envKey) = none ∧ f = .unwritable ∧
        LacksText c.toEntries overrides := by
  rw [withOverrides_eq hplain]
  cases clash? (c.toEntries.get? envKey) (overrides.get? envKey) with
  | none => simpa using build_layer_eq_error_iff hc hplain c.name
  | some u => simp [eq_comm]

lemma withOverrides_eq_ok (hplain : IsChangeable (.map overrides))
    (h : c.withOverrides overrides = .ok d) :
    build c.name (Settings.layer c.toEntries overrides) = .ok d := by
  rw [withOverrides_eq hplain] at h
  cases hclash : clash? (c.toEntries.get? envKey) (overrides.get? envKey) with
  | none => rwa [hclash] at h
  | some u =>
    rw [hclash] at h
    cases h

/-! ### Chains of calls -/

/-- The configuration is what is built from its settings, and these are plain. -/
structure IsBuilt (c : RunConfig) : Prop where
  plain : IsChangeable (.map c.toEntries)
  rebuilt : build c.name c.toEntries = .ok c

lemma isBuilt_of_build (hplain : IsChangeable (.map settings)) (h : build name settings = .ok c) :
    IsBuilt c := by
  have hentries := toEntries_build hplain h
  constructor
  · rwa [hentries]
  · rwa [hentries, (of_build_eq_ok h).1]

namespace IsBuilt

lemma settings_eq (h : IsBuilt c) : c.settings = freezeEntries c.toEntries :=
  (of_build_eq_ok h.rebuilt).2

lemma isMapping_env (h : IsBuilt c) : c.env.isMapping = true ↔ SectionIsMapping c.toEntries := by
  rw [env, h.settings_eq, Entries.get?_freezeEntries, SectionIsMapping]
  cases c.toEntries.get? envKey with
  | none => simp [Value.isMapping, Value.entries?]
  | some v => simp

/-- One call. -/
lemma withOverrides (h : IsBuilt c) (hplain : IsChangeable (.map overrides))
    (hd : c.withOverrides overrides = .ok d) :
    IsBuilt d ∧ d.name = c.name ∧ d.toEntries = Settings.layer c.toEntries overrides := by
  have hmerged := Settings.isChangeable_layer h.plain hplain
  have hbuild := withOverrides_eq_ok hplain hd
  exact ⟨isBuilt_of_build hmerged hbuild, (of_build_eq_ok hbuild).1, toEntries_build hmerged hbuild⟩

/-- Two calls: in the way of the second one is at most what the first one has put there. -/
lemma withOverrides_twice {a b : Entries} (h : IsBuilt c) (hsection : SectionIsMapping c.toEntries)
    (ha : IsChangeable (.map a)) (hb : IsChangeable (.map b)) (hd : c.withOverrides a = .ok d) :
    d.withOverrides b =
      (clash? (a.get? envKey) (b.get? envKey)).elim
        (build c.name (Settings.layer (Settings.layer c.toEntries a) b))
        fun u => .error (.notMapping u.kindName) := by
  obtain ⟨-, hname, hentries⟩ := h.withOverrides ha hd
  have hmiddle := Settings.obstacle?_layer ha.distinct hsection
  rw [withOverrides_eq hb, hname, hentries, Settings.clash?_congr hmiddle]

/-- As long as all sections are mappings, none is in the way. -/
lemma of_chain {chain : List Entries} (h : IsBuilt c) (hsection : SectionIsMapping c.toEntries)
    (hchain : ∀ o ∈ chain, IsChangeable (.map o) ∧ SectionIsMapping o)
    (hd : chain.foldlM RunConfig.withOverrides c = .ok d) :
    IsBuilt d ∧ SectionIsMapping d.toEntries := by
  induction chain generalizing c with
  | nil =>
    cases hd
    exact ⟨h, hsection⟩
  | cons o chain ih =>
    obtain ⟨⟨hplain, hmapping⟩, hrest⟩ := List.forall_mem_cons.1 hchain
    rw [List.foldlM_cons] at hd
    obtain ⟨n, hn, hd⟩ := bind_eq_ok.1 hd
    obtain ⟨hbuilt, -, hentries⟩ := h.withOverrides hplain hn
    have hnext : SectionIsMapping n.toEntries := by
      rw [← Settings.obstacle?_eq_none] at hmapping ⊢
      rw [hentries, Settings.obstacle?_layer hplain.distinct hsection, hmapping]
    exact ih hbuilt hnext hrest hd

/-- What is in the way after a chain of calls is the section that was given last. -/
lemma chain_section {chain rows : List Entries} (h : IsBuilt c)
    (hrows : obstacle? (c.toEntries.get? envKey) = obstacle? (lastSection rows))
    (hchain : ∀ o ∈ chain, IsChangeable (.map o))
    (hd : chain.foldlM RunConfig.withOverrides c = .ok d) :
    IsBuilt d ∧ obstacle? (d.toEntries.get? envKey) = obstacle? (lastSection (rows ++ chain)) := by
  induction chain generalizing c rows with
  | nil =>
    cases hd
    rw [List.append_nil]
    exact ⟨h, hrows⟩
  | cons o chain ih =>
    obtain ⟨hplain, hrest⟩ := List.forall_mem_cons.1 hchain
    rw [List.foldlM_cons] at hd
    obtain ⟨n, hn, hd⟩ := bind_eq_ok.1 hd
    obtain ⟨hbuilt, -, hentries⟩ := h.withOverrides hplain hn
    have hnext : obstacle? (n.toEntries.get? envKey) = obstacle? (lastSection (rows ++ [o])) := by
      rw [hentries, Settings.get?_layer_env hplain.distinct, Settings.obstacle?_mergedSection,
        Settings.lastSection_append, Settings.obstacle?_or_congr hrows]
    have hlast := ih hbuilt hnext hrest hd
    rwa [List.append_assoc, List.singleton_append] at hlast

end IsBuilt

/-! ### The start of a chain -/

section
variable {name : String} {base overlay : Entries} {overlays : Overlays}

lemma build_of_resolve (hbase : IsChangeable (.map base)) (hoverlay : IsChangeable (.map overlay))
    (hregistered : overlays.lookup (Text.strip name) = some overlay)
    (h : Overlays.resolve name base overlays = .ok c) :
    build (Text.strip name) (Settings.layer base overlay) = .ok c := by
  rwa [Overlays.resolve_of_registered hregistered hbase hoverlay, mapError_eq_ok] at h

lemma isBuilt_of_resolve (hbase : IsChangeable (.map base)) (hoverlay : IsChangeable (.map overlay))
    (hregistered : overlays.lookup (Text.strip name) = some overlay)
    (h : Overlays.resolve name base overlays = .ok c) : IsBuilt c :=
  isBuilt_of_build (Settings.isChangeable_layer hbase hoverlay)
    (build_of_resolve hbase hoverlay hregistered h)

/-- In the way is the section of the overlay, or that of the base settings if there is no other. -/
lemma section_of_resolve (hbase : IsChangeable (.map base)) (hoverlay : IsChangeable (.map overlay))
    (hregistered : overlays.lookup (Text.strip name) = some overlay)
    (h : Overlays.resolve name base overlays = .ok c) :
    obstacle? (c.toEntries.get? envKey) = obstacle? (lastSection [base, overlay]) := by
  have hlast : lastSection [base, overlay] = (overlay.get? envKey).or (base.get? envKey) := by
    rw [← List.singleton_append, Settings.lastSection_append]
    simp [lastSection]
  rw [toEntries_build (Settings.isChangeable_layer hbase hoverlay)
      (build_of_resolve hbase hoverlay hregistered h),
    Settings.get?_layer_env hoverlay.distinct, Settings.obstacle?_mergedSection, hlast]

lemma exists_of_resolve (h : Overlays.resolve name base overlays = .ok c) :
    ∃ overlay, overlays.lookup (Text.strip name) = some overlay := by
  rw [Overlays.resolve] at h
  cases hfound : overlays.lookup (Text.strip name) with
  | none =>
    rw [hfound] at h
    cases h
  | some overlay => exact ⟨overlay, rfl⟩

end

/-! ### The laws -/

/-- A configuration whose environment section is a mapping is what is built from its settings, and
stays so under overrides whose sections are mappings. To override settings is then to merge them,
and without overrides nothing changes. Two calls in a row, of which the first one returns, are one
with both overrides merged, unless the second one has a section that is a mapping and the first one
has a section that is none. The first call returns unless it leaves a field without a text. -/
theorem overriding_merges {name : String} {base : Entries} {overlays : Overlays}
    {start c : RunConfig} {chain : List Entries} (hbase : IsChangeable (.map base))
    (hoverlays : ∀ e ∈ overlays, IsChangeable (.map e.2))
    (hstart : Overlays.resolve name base overlays = .ok start)
    (hsection : start.env.isMapping = true)
    (hchain : ∀ o ∈ chain, IsChangeable (.map o) ∧ SectionIsMapping o)
    (hc : chain.foldlM withOverrides start = .ok c) :
    build c.name c.toEntries = .ok c ∧
      (∀ overrides, IsChangeable (.map overrides) →
        c.withOverrides overrides = do build c.name (← Settings.merge c.toEntries overrides)) ∧
      c.withOverrides [] = .ok c ∧
      ∀ a b : Entries, IsChangeable (.map a) → IsChangeable (.map b) →
        (∀ d, c.withOverrides a = .ok d →
          (d.withOverrides b = (do c.withOverrides (← Settings.merge a b)) ↔
            SectionIsMapping a ∨ ∀ v, b.get? envKey = some v → v.isMapping = false)) ∧
        ∀ f, c.withOverrides a = .error f ↔ f = .unwritable ∧ LacksText c.toEntries a := by
  obtain ⟨overlay, hregistered⟩ := exists_of_resolve hstart
  obtain ⟨before, after, hsplit, -⟩ := List.lookup_eq_some_iff.1 hregistered
  have hoverlay : IsChangeable (.map overlay) :=
    hoverlays (Text.strip name, overlay) (by simp [hsplit])
  have hbuilt := isBuilt_of_resolve hbase hoverlay hregistered hstart
  obtain ⟨hbuilt, hsection⟩ := hbuilt.of_chain (hbuilt.isMapping_env.1 hsection) hchain hc
  have hmerges (o : Entries) (ho : IsChangeable (.map o)) :
      c.withOverrides o = build c.name (Settings.layer c.toEntries o) :=
    withOverrides_of_sectionIsMapping ho hsection
  refine ⟨hbuilt.rebuilt, fun o ho => ?_, ?_, fun a b ha hb => ⟨fun d hd => ?_, fun f => ?_⟩⟩
  · rw [hmerges o ho, Settings.merge_of_isChangeable hbuilt.plain ho]
    rfl
  · rw [hmerges [] .nil]
    exact hbuilt.rebuilt
  · rw [← Settings.clash?_eq_none, hbuilt.withOverrides_twice hsection ha hb hd,
      Settings.merge_of_isChangeable ha hb]
    change _ = c.withOverrides (Settings.layer a b) ↔ _
    have hab := Settings.isChangeable_layer ha hb
    rw [hmerges _ hab]
    cases hclash : clash? (a.get? envKey) (b.get? envKey) with
    | none =>
      have hassoc := Settings.layer_assoc_of_clash?_eq_none hbuilt.plain.isKeyed ha.isKeyed
        hb.isKeyed hclash
      simp [hassoc]
    | some u =>
      rcases build_layer hbuilt.plain hab c.name with ⟨n, hn, -⟩ | ⟨hn, -⟩ <;> simp [hn]
  · rw [hmerges a ha]
    exact build_layer_eq_error_iff hbuilt.plain ha c.name

/-- Sections of both sides of a chain, and two calls the first of which gives the section up. -/
theorem overriding_merges_sections :
    let base : Entries := [(.str "env", .map [(.str "username", .str "ana")])]
    let overlays : Overlays := [("qa", [(.str "timeout", .int 9)])]
    let chain : List Entries := [[(.str "env", .map [(.str "username", .str "bo")])],
      [(.str "timeout", .null)]]
    let a : Entries := [(.str "env", .map [(.str "password", .int 1)])]
    let b : Entries := [(.str "env", .map [(.str "apiUrl", .str "/api")])]
    let cleared : Entries := [(.str "env", .null)]
    (IsChangeable (.map base) ∧ (∀ e ∈ overlays, IsChangeable (.map e.2)) ∧
      ∀ o ∈ chain, IsChangeable (.map o) ∧ SectionIsMapping o) ∧
    ∃ start, Overlays.resolve "qa" base overlays = .ok start ∧ start.env.isMapping = true ∧
    ∃ c, chain.foldlM withOverrides start = .ok c ∧ build c.name c.toEntries = .ok c ∧
      c.withOverrides [] = .ok c ∧
      (∃ d, c.withOverrides a = .ok d ∧
        d.withOverrides b = (do c.withOverrides (← Settings.merge a b))) ∧
      ∃ d, c.withOverrides cleared = .ok d ∧
        d.withOverrides b ≠ (do c.withOverrides (← Settings.merge cleared b)) := by
  intro base overlays chain a b cleared
  have hbase : IsChangeable (.map base) := by
    simp +decide [base, Entries.HasDistinctKeys]
  have hoverlays : ∀ e ∈ overlays, IsChangeable (.map e.2) := by
    simp +decide [overlays, Entries.HasDistinctKeys]
  have hchain : ∀ o ∈ chain, IsChangeable (.map o) ∧ SectionIsMapping o := by
    simp +decide [chain, Entries.HasDistinctKeys, SectionIsMapping]
  have ha : IsChangeable (.map a) := by
    simp +decide [a, Entries.HasDistinctKeys]
  have hb : IsChangeable (.map b) := by
    simp +decide [b, Entries.HasDistinctKeys]
  let start : RunConfig := ⟨"qa", "", "", "qa", ⟨"ana", ""⟩,
    [(.str "env", .view [(.str "username", .str "ana")]), (.str "timeout", .int 9)]⟩
  let c : RunConfig := ⟨"qa", "", "", "qa", ⟨"bo", ""⟩,
    [(.str "env", .view [(.str "username", .str "bo")]), (.str "timeout", .null)]⟩
  have hstart : Overlays.resolve "qa" base overlays = .ok start := rfl
  have hc : chain.foldlM withOverrides start = .ok c := rfl
  obtain ⟨hrebuilt, -, hsame, htwice⟩ := overriding_merges hbase hoverlays hstart rfl hchain hc
  refine ⟨⟨hbase, hoverlays, hchain⟩, start, hstart, rfl, c, hc, hrebuilt, hsame, ?_, ?_⟩
  · refine ⟨_, rfl, ((htwice a b ha hb).1 _ rfl).2 (.inl ?_)⟩
    rintro _ ⟨⟩
    rfl
  · refine ⟨_, rfl, fun hboth => ?_⟩
    rcases ((htwice cleared b (.singleton "env" _) hb).1 _ rfl).1 hboth with hmapping | hother
    · exact absurd (hmapping _ rfl) (by decide)
    · exact absurd (hother _ rfl) (by decide)

/-- Two calls in a row are not one with both overrides merged if the first one fails, or if it gives
up a section that the second one wants back. -/
theorem overriding_twice_ne :
    ∃ c, Overlays.resolve "qa" [] [("qa", [])] = .ok c ∧
      (let long : Entries := [(.str "apiUrl", .int (Numeral.unwritableBound : Nat))]
       let short : Entries := [(.str "apiUrl", .str "/api")]
       (do (← c.withOverrides long).withOverrides short) ≠
         (do c.withOverrides (← Settings.merge long short))) ∧
      (let cleared : Entries := [(.str "env", .null)]
       let wanted : Entries := [(.str "env", .map [(.str "apiUrl", .str "/api")])]
       (do (← c.withOverrides cleared).withOverrides wanted) ≠
         (do c.withOverrides (← Settings.merge cleared wanted))) := by
  let c : RunConfig := ⟨"qa", "", "", "qa", ⟨"", ""⟩, []⟩
  refine ⟨c, rfl, ?_, ?_⟩
  · intro long short h
    have hlacks := lacksText_int (Scalar.not_isWritable_int (Nat.le_refl Numeral.unwritableBound))
    have hc : IsChangeable (.map c.toEntries) := .nil
    have hfails : c.withOverrides long = .error .unwritable :=
      (withOverrides_eq_error hc (.singleton "apiUrl" _)).2 (.inr ⟨rfl, rfl, hlacks⟩)
    have hmerged : (Settings.merge long short >>= c.withOverrides).isOk = true := rfl
    rw [← h, hfails] at hmerged
    cases hmerged
  · intro cleared wanted h
    cases h

/-- Overrides fail if they have an environment section that is a mapping and the section that was
given last, by the base settings, the overlay or the calls before, is none. Where no section is in
the way, they fail just if a field is left without a text. Otherwise there is a configuration, and
what the overrides have in their section it has too. -/
theorem overriding_fails_iff {name : String} {base overlay : Entries} {overlays : Overlays}
    {start c : RunConfig} {chain : List Entries} {overrides : Entries}
    (hbase : IsChangeable (.map base)) (hoverlay : IsChangeable (.map overlay))
    (hregistered : overlays.lookup (Text.strip name) = some overlay)
    (hstart : Overlays.resolve name base overlays = .ok start)
    (hchain : ∀ o ∈ chain, IsChangeable (.map o))
    (hc : chain.foldlM withOverrides start = .ok c)
    (hoverrides : IsChangeable (.map overrides)) :
    (∀ kind, c.withOverrides overrides = .error (.notMapping kind) ↔ ∃ env top,
      lastSection (base :: overlay :: chain) = some env ∧ env.isMapping = false ∧
        overrides.get? envKey = some top ∧ top.isMapping = true ∧ kind = env.kindName) ∧
    (∀ f, c.withOverrides overrides = .error f → (∃ kind, f = .notMapping kind) ∨
      f = .unwritable ∧ LacksText c.toEntries overrides) ∧
    (LacksText c.toEntries overrides → ∀ d, c.withOverrides overrides ≠ .ok d) ∧
    ∀ d top, ∀ entries : Entries, c.withOverrides overrides = .ok d →
      overrides.get? envKey = some top → top.entries? = some entries →
      ∃ env : Entries, d.env = .view env ∧
        ∀ key v, entries.get? key = some v → env.get? key = some v.freeze := by
  have hrows := section_of_resolve hbase hoverlay hregistered hstart
  obtain ⟨hbuilt, hsection⟩ :=
    (isBuilt_of_resolve hbase hoverlay hregistered hstart).chain_section hrows hchain hc
  have hfails (f : SettingsFault) := withOverrides_eq_error (f := f) hbuilt.plain hoverrides
  refine ⟨fun kind => ?_, fun f hf => ?_, fun hlacks d hd => ?_, ?_⟩
  · rw [hfails, Settings.clash?_congr hsection]
    simp only [Settings.clash?_eq_some, List.cons_append, List.nil_append,
      SettingsFault.notMapping.injEq, reduceCtorEq, false_and, and_false, or_false]
    constructor
    · rintro ⟨env, ⟨⟨top, htop, hmapping⟩, henv, hother⟩, rfl⟩
      exact ⟨env, top, henv, hother, htop, hmapping, rfl⟩
    · rintro ⟨env, top, henv, hother, htop, hmapping, rfl⟩
      exact ⟨env, ⟨⟨top, htop, hmapping⟩, henv, hother⟩, rfl⟩
  · rcases (hfails f).1 hf with ⟨u, -, rfl⟩ | ⟨-, rfl, hlacks⟩
    · exact .inl ⟨_, rfl⟩
    · exact .inr ⟨rfl, hlacks⟩
  · have hbuild := withOverrides_eq_ok hoverrides hd
    rw [(build_layer_eq_error_iff hbuilt.plain hoverrides c.name).2 ⟨rfl, hlacks⟩] at hbuild
    cases hbuild
  · intro d top entries hd htop hentries
    obtain ⟨hbuilt', -, hmerge⟩ := hbuilt.withOverrides hoverrides hd
    obtain ⟨whole, hwhole, hkeys⟩ := Settings.exists_mergedSection (hoverrides.of_get? htop)
      hentries (c.toEntries.get? envKey)
    refine ⟨freezeEntries whole, ?_, fun key v hv => ?_⟩
    · rw [env, hbuilt'.settings_eq, Entries.get?_freezeEntries, hmerge,
        Settings.get?_layer_env hoverrides.distinct, htop, hwhole]
      rfl
    · rw [Entries.get?_freezeEntries, hkeys key v hv]
      rfl

/-- A call before gives the section up, and the next one wants it back. -/
theorem overriding_fails_chain :
    let overlay : Entries := [(.str "env", .map [(.str "username", .str "ana")])]
    let chain : List Entries := [[(.str "env", .null)], [(.str "timeout", .int 9)]]
    let overrides : Entries := [(.str "env", .map [(.str "apiUrl", .str "/api")])]
    (IsChangeable (.map []) ∧ IsChangeable (.map overlay) ∧ (∀ o ∈ chain, IsChangeable (.map o)) ∧
      IsChangeable (.map overrides)) ∧
    ∃ start c, Overlays.resolve "qa" [] [("qa", overlay)] = .ok start ∧
      chain.foldlM withOverrides start = .ok c ∧
      c.withOverrides overrides = .error (.notMapping "NoneType") ∧
      ∃ d, start.withOverrides overrides = .ok d ∧ ∃ env : Entries, d.env = .view env ∧
        env.get? (.str "apiUrl") = some (.str "/api") := by
  intro overlay chain overrides
  have hbase : IsChangeable (.map []) := .nil
  have hoverlay : IsChangeable (.map overlay) := by
    simp +decide [overlay, Entries.HasDistinctKeys]
  have hchain : ∀ o ∈ chain, IsChangeable (.map o) := by
    simp +decide [chain, Entries.HasDistinctKeys]
  have hoverrides : IsChangeable (.map overrides) := by
    simp +decide [overrides, Entries.HasDistinctKeys]
  have hregistered : List.lookup (Text.strip "qa") [("qa", overlay)] = some overlay := rfl
  let start : RunConfig := ⟨"qa", "", "", "qa", ⟨"ana", ""⟩,
    [(.str "env", .view [(.str "username", .str "ana")])]⟩
  have hstart : Overlays.resolve "qa" [] [("qa", overlay)] = .ok start := rfl
  refine ⟨⟨hbase, hoverlay, hchain, hoverrides⟩, start, _, hstart, rfl, ?_, _, rfl, ?_⟩
  · obtain ⟨hfails, -⟩ :=
      overriding_fails_iff hbase hoverlay hregistered hstart hchain rfl hoverrides
    exact (hfails _).2 ⟨_, _, rfl, rfl, rfl, rfl, rfl⟩
  · have hnone : ∀ o ∈ ([] : List Entries), IsChangeable (.map o) :=
      fun o ho => absurd ho List.not_mem_nil
    obtain ⟨-, -, -, hkeys⟩ :=
      overriding_fails_iff hbase hoverlay hregistered hstart hnone rfl hoverrides
    obtain ⟨env, henv, hvalues⟩ := hkeys _ _ _ rfl rfl rfl
    exact ⟨env, henv, hvalues (.str "apiUrl") (.str "/api") rfl⟩

/-- The environment of a configuration that resolves can be null, which a mapping cannot be put
over. -/
theorem overriding_null :
    ∃ c, Overlays.resolve "qa" []
        [("qa", [(.str "baseUrl", .str "https://qa.example.com"), (.str "env", .null)])] = .ok c ∧
      c.withOverrides [(.str "env", .map [(.str "apiUrl", .str "https://mock.test/api")])] =
        .error (.notMapping "NoneType") :=
  ⟨_, rfl, rfl⟩

end RunConfig

end TaggedSuite
