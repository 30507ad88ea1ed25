import TaggedSuite.Config.Expand
import TaggedSuite.Proofs.Config.Surface
import TaggedSuite.Proofs.Schema.Bundled
import TaggedSuite.Selection.Choice

/-!
# Settings that select tests

The settings that select tests stand in the environment section. The bundled schemas ask for that
section to be a mapping and for the filter and the title pattern in it to be texts, in the base file
and in every overlay. This stays so when values are put in the place of references, when an overlay
is merged onto the base settings and when the result is frozen. So a selection that is read off such
a configuration can only fail by the wording of its filter.
-/
namespace TaggedSuite

open Schema (Conforms)

namespace Settings

variable {settings base overlay : Entries} {e : String × Value}

/-- The keys of the settings that have to be texts. -/
def textKeys : List String := ["grepTags", "grep"]

/-- The filter and the title pattern are texts if they are there. -/
def AreTexts (env : Entries) : Prop :=
  ∀ key ∈ textKeys, ∀ w, env.get? (.str key) = some w → ∃ s, w = .str s

/-- The environment section is a mapping in which the settings that have to be texts are, if it is
there. -/
def Selects (settings : Entries) : Prop :=
  ∀ v, settings.get? envKey = some v → ∃ env, v = .map env ∧ AreTexts env

/-- The same of settings that can be merged. -/
structure AreSound (settings : Entries) : Prop where
  keyed : Value.IsKeyed (.map settings)
  selects : Selects settings

lemma areTexts_nil : AreTexts [] := fun _ _ _ h => nomatch h

lemma areSound_nil : AreSound [] :=
  ⟨.map .nil fun _ h => absurd h List.not_mem_nil, fun _ h => nomatch h⟩

/-! ### What conforms to the bundled documents -/

lemma exists_str_of_conforms {v : Value} (h : Conforms (Bundled.kind "string") v) :
    ∃ s, v = .str s := by
  rw [Schema.conforms_kind (t := .string) rfl] at h
  unfold ValueType.matches' at h
  split at h <;> simp_all

/-- A document that speaks of the environment section and of its settings that select tests. -/
lemma selects_of_conforms {title : String} {properties : List (String × Value)}
    (inner : List (String × Value)) (hinner : ("env", Bundled.record inner) ∈ properties)
    (hselection : Bundled.selectionProperties ⊆ inner)
    (h : Conforms (Bundled.document title properties) (.map settings)) : Selects settings := by
  obtain ⟨_, ⟨⟩, hproperties⟩ := Schema.conforms_document.1 h
  intro v hv
  obtain ⟨env, rfl, hsettings⟩ := Schema.conforms_record.1 ((hproperties _ hinner).2 v hv)
  refine ⟨env, rfl, fun key hkey w hw => ?_⟩
  have htext : (key, Bundled.kind "string") ∈ Bundled.selectionProperties := by
    simp only [textKeys, List.mem_cons, List.not_mem_nil, or_false] at hkey
    rcases hkey with rfl | rfl <;> simp [Bundled.selectionProperties]
  exact exists_str_of_conforms ((hsettings _ (hselection htext)).2 w hw)

/-- Both bundled documents have the settings that select tests be texts. -/
lemma selects_of_standard (he : e ∈ Bundled.standard) (h : Conforms e.2 (.map settings)) :
    Selects settings := by
  simp only [Bundled.standard, List.mem_cons, List.not_mem_nil, or_false] at he
  rcases he with rfl | rfl
  · exact selects_of_conforms Bundled.selectionProperties (by simp [Bundled.baseProperties])
      (List.Subset.refl _) h
  · exact selects_of_conforms (Bundled.targetProperties ++ Bundled.selectionProperties)
      (by simp [Bundled.overlayProperties]) (List.subset_append_right _ _) h

end Settings

/-! ### References -/

namespace Expand

variable {vars : Variables} {source : String} {entries expanded : Entries} {f : ConfigError}

/-- What can be wrong with references is that a variable is not set. -/
lemma text_eq_error {s : String} (h : text vars source s = .error f) :
    ∃ name, f = .unsetVariable name source := by
  rw [text, bind_eq_error] at h
  rcases h with h | ⟨_, -, h⟩
  · obtain ⟨piece, -, hpiece⟩ := exists_of_mapM_eq_error h
    cases piece with
    | char c => cases hpiece
    | reference r =>
      rw [Piece.resolve, Reference.resolve] at hpiece
      split at hpiece <;> cases hpiece
      exact ⟨r.name, rfl⟩
  · cases h

mutual

theorem value_eq_error : ∀ {v : Value}, value vars source v = .error f →
    ∃ name, f = .unsetVariable name source
  | .scalar (.str s), h => by
    rw [value, bind_eq_error] at h
    rcases h with h | ⟨_, -, h⟩
    · exact text_eq_error h
    · cases h
  | .list items, h => by
    rw [value, bind_eq_error] at h
    rcases h with h | ⟨_, -, h⟩
    · exact valueItems_eq_error h
    · cases h
  | .map entries, h => by
    rw [value, bind_eq_error] at h
    rcases h with h | ⟨_, -, h⟩
    · exact valueEntries_eq_error h
    · cases h
  | .scalar .null, h | .scalar (.bool _), h | .scalar (.int _), h | .scalar (.num _), h
  | .scalar (.day _), h | .scalar (.moment _), h | .scalar (.bytes _), h
  | .tuple _, h | .view _, h | .set _, h => by
    simp [value, pure, Except.pure] at h

theorem valueItems_eq_error : ∀ {items : List Value}, valueItems vars source items = .error f →
    ∃ name, f = .unsetVariable name source
  | [], h => by cases h
  | v :: rest, h => by
    rw [valueItems, bind_eq_error] at h
    rcases h with h | ⟨_, -, h⟩
    · exact value_eq_error h
    · rcases bind_eq_error.1 h with h | ⟨_, -, h⟩
      · exact valueItems_eq_error h
      · cases h

theorem valueEntries_eq_error : ∀ {entries : List (Scalar × Value)},
    valueEntries vars source entries = .error f → ∃ name, f = .unsetVariable name source
  | [], h => by cases h
  | (k, v) :: rest, h => by
    rw [valueEntries, bind_eq_error] at h
    rcases h with h | ⟨_, -, h⟩
    · exact value_eq_error h
    · rcases bind_eq_error.1 h with h | ⟨_, -, h⟩
      · exact valueEntries_eq_error h
      · cases h

end

/-- Values are put in place entry by entry, and every entry keeps its key. -/
lemma valueEntries_eq_ok : valueEntries vars source entries = .ok expanded ↔
    List.Forall₂ (fun d e => e.1 = d.1 ∧ value vars source d.2 = .ok e.2) entries expanded := by
  induction entries generalizing expanded with
  | nil => cases expanded <;> simp [valueEntries, pure, Except.pure]
  | cons d entries ih =>
    obtain ⟨key, v⟩ := d
    rw [valueEntries]
    cases expanded with
    | nil => simp [bind_eq_ok, pure, Except.pure]
    | cons e expanded =>
      obtain ⟨key', w⟩ := e
      simp only [bind_eq_ok, pure, Except.pure, Except.ok.injEq, List.cons.injEq, Prod.mk.injEq,
        List.forall₂_cons, ← ih]
      constructor
      · rintro ⟨w, hw, rest, hrest, ⟨rfl, rfl⟩, rfl⟩
        exact ⟨⟨rfl, hw⟩, hrest⟩
      · rintro ⟨⟨rfl, hw⟩, hrest⟩
        exact ⟨w, hw, expanded, hrest, ⟨rfl, rfl⟩, rfl⟩

lemma keys_of_valueEntries (h : valueEntries vars source entries = .ok expanded) :
    Entries.keys expanded = Entries.keys entries := by
  induction valueEntries_eq_ok.1 h with
  | nil => rfl
  | cons hfirst hrest ih =>
    have hkeys := ih (valueEntries_eq_ok.2 hrest)
    rw [Entries.keys] at hkeys ⊢
    rw [List.map_cons, hfirst.1, hkeys]
    rfl

/-- What stands under a key comes of what stood under it. -/
lemma exists_of_get? {key : Scalar} {w : Value}
    (h : valueEntries vars source entries = .ok expanded) (hw : expanded.get? key = some w) :
    ∃ v, entries.get? key = some v ∧ value vars source v = .ok w := by
  induction valueEntries_eq_ok.1 h with
  | nil => cases hw
  | @cons d e entries expanded hfirst hrest ih =>
    obtain ⟨hkey, hvalue⟩ := hfirst
    rw [Entries.get?, hkey] at hw
    rw [Entries.get?]
    split_ifs at hw ⊢ with hsame
    · exact ⟨d.2, rfl, Option.some.inj hw ▸ hvalue⟩
    · exact ih (valueEntries_eq_ok.2 hrest) hw

lemma hasDistinctKeys (h : valueEntries vars source entries = .ok expanded)
    (hdistinct : entries.HasDistinctKeys) : expanded.HasDistinctKeys := by
  rw [Entries.hasDistinctKeys_iff] at hdistinct ⊢
  rw [keys_of_valueEntries h]
  exact hdistinct

lemma valueItems_eq_ok {items expanded : List Value} :
    valueItems vars source items = .ok expanded ↔
      List.Forall₂ (fun v w => value vars source v = .ok w) items expanded := by
  induction items generalizing expanded with
  | nil => cases expanded <;> simp [valueItems, pure, Except.pure]
  | cons v items ih =>
    rw [valueItems]
    cases expanded with
    | nil => simp [bind_eq_ok, pure, Except.pure]
    | cons w expanded => simp [bind_eq_ok, pure, Except.pure, ← ih]

lemma forall_of_forall₂ {α β : Type} {R : α → β → Prop} {P : β → Prop} {as : List α} {bs : List β}
    (h : List.Forall₂ R as bs) (hP : ∀ a ∈ as, ∀ b, R a b → P b) : ∀ b ∈ bs, P b := by
  induction h with
  | nil => exact fun _ hb => nomatch hb
  | @cons a b as bs hab _ ih =>
    obtain ⟨hfirst, hrest⟩ := List.forall_mem_cons.1 hP
    exact List.forall_mem_cons.2 ⟨hfirst b hab, ih hrest⟩

/-- Values in place of references leave mappings changeable, with the same keys, and what has a text
has one afterwards. -/
lemma keeps {v w : Value} (hv : v.IsKeyed) (h : value vars source v = .ok w) :
    w.IsKeyed ∧ (v.IsWritable → w.IsWritable) := by
  induction hv generalizing w with
  | scalar s =>
    cases s with
    | str s =>
      obtain ⟨s', -, ⟨⟩⟩ := bind_eq_ok.1 h
      exact ⟨.scalar _, fun _ => Value.isWritable_str s'⟩
    | _ =>
      cases h
      exact ⟨.scalar _, id⟩
  | set members =>
    cases h
    exact ⟨.set members, id⟩
  | tuple hitems _ =>
    cases h
    exact ⟨.tuple hitems, id⟩
  | list _ ih =>
    obtain ⟨expanded, hexpanded, ⟨⟩⟩ := bind_eq_ok.1 h
    have hparts := valueItems_eq_ok.1 hexpanded
    refine ⟨.list (forall_of_forall₂ hparts fun v hv w hw => (ih v hv hw).1), fun hwritable => ?_⟩
    rw [Value.isWritable_list] at hwritable ⊢
    exact forall_of_forall₂ hparts fun v hv w hw => (ih v hv hw).2 (hwritable v hv)
  | map hkeys _ ih =>
    obtain ⟨expanded, hexpanded, ⟨⟩⟩ := bind_eq_ok.1 h
    have hparts := valueEntries_eq_ok.1 hexpanded
    refine ⟨.map (hasDistinctKeys hexpanded hkeys) (forall_of_forall₂ hparts fun d hd e he =>
      (ih d hd he.2).1), fun hwritable => ?_⟩
    rw [Value.isWritable_map] at hwritable ⊢
    refine forall_of_forall₂ hparts fun d hd e he => ⟨?_, (ih d hd he.2).2 (hwritable d hd).2⟩
    rw [he.1]
    exact (hwritable d hd).1

/-- The same of settings. -/
lemma keeps_entries (h : valueEntries vars source entries = .ok expanded)
    (hkeyed : Value.IsKeyed (.map entries)) : Value.IsKeyed (.map expanded) ∧
      (Value.IsWritable (.map entries) → Value.IsWritable (.map expanded)) := by
  have hvalue : value vars source (.map entries) = .ok (.map expanded) := by
    rw [value, h]
    rfl
  exact keeps hkeyed hvalue

/-- Putting values in place of references keeps settings sound. -/
lemma areSound (h : valueEntries vars source entries = .ok expanded)
    (hsound : Settings.AreSound entries) : Settings.AreSound expanded := by
  refine ⟨(keeps_entries h hsound.keyed).1, fun w hw => ?_⟩
  obtain ⟨v, hv, hvalue⟩ := exists_of_get? h hw
  obtain ⟨env, rfl, htexts⟩ := hsound.selects v hv
  obtain ⟨env', henv, ⟨⟩⟩ := bind_eq_ok.1 hvalue
  refine ⟨env', rfl, fun key hkey u hu => ?_⟩
  obtain ⟨t, ht, htext⟩ := exists_of_get? henv hu
  obtain ⟨s, rfl⟩ := htexts key hkey t ht
  obtain ⟨s', -, ⟨⟩⟩ := bind_eq_ok.1 htext
  exact ⟨s', rfl⟩

end Expand

/-! ### Merging -/

namespace Settings

variable {settings base top : Entries}

lemma AreTexts.overlay {bottom top : Entries} (hbottom : AreTexts bottom) (htop : AreTexts top)
    (hdistinct : top.HasDistinctKeys) : AreTexts (bottom.overlay top) := by
  intro key hkey w hw
  rw [hdistinct.get?_overlay, Option.or_eq_some_iff] at hw
  rcases hw with hw | ⟨-, hw⟩
  · exact htop key hkey w hw
  · exact hbottom key hkey w hw

/-- Settings laid over one another select tests by texts if both do. -/
lemma AreSound.layer (hbase : AreSound base) (htop : AreSound top) :
    AreSound (layer base top) := by
  refine ⟨isKeyed_layer hbase.keyed htop.keyed, fun w hw => ?_⟩
  rw [get?_layer_env htop.keyed.distinct] at hw
  cases hupper : top.get? envKey with
  | none =>
    rw [hupper, mergedSection_none] at hw
    exact hbase.selects w hw
  | some u =>
    obtain ⟨above, rfl, habove⟩ := htop.selects u hupper
    rw [hupper] at hw
    cases hlower : base.get? envKey with
    | none =>
      rw [hlower, none_mergedSection] at hw
      cases hw
      exact ⟨above, rfl, habove⟩
    | some l =>
      obtain ⟨below, rfl, hbelow⟩ := hbase.selects l hlower
      rw [hlower, mergedSection_of_mappings rfl rfl] at hw
      cases hw
      have hdistinct := isKeyedSection htop.keyed above (by rw [hupper]; rfl)
      exact ⟨_, rfl, hbelow.overlay habove hdistinct⟩

/-- What is laid over settings has texts if both sides have. -/
lemma isWritable_layer (hbase : AreSound base) (htop : AreSound top)
    (hlower : Value.IsWritable (.map base)) (hupper : Value.IsWritable (.map top)) :
    ∀ e ∈ Settings.layer base top, e.2.IsWritable := by
  have hboth : ∀ e ∈ Settings.layer base top, e.2.IsKeyed ∧ e.2.IsWritable := by
    refine forall_mem_layer (P := fun v => v.IsKeyed ∧ v.IsWritable) ?_
      (fun e he => ⟨hbase.keyed.value he, (Value.isWritable_map.1 hlower e he).2⟩)
      fun e he => ⟨htop.keyed.value he, (Value.isWritable_map.1 hupper e he).2⟩
    rintro lower upper below above ⟨hlower, hbelow⟩ hlower' ⟨hupper, habove⟩ hupper'
    obtain rfl := hlower.eq_map hlower'
    obtain rfl := hupper.eq_map hupper'
    rw [Value.isWritable_map] at hbelow habove ⊢
    exact ⟨hlower.overlay hupper, hbelow.overlay habove⟩
  exact fun e he => (hboth e he).2

end Settings

/-! ### The configuration -/

namespace RunConfig

open Settings (envKey Selects)

variable {name key default : String} {settings : Entries} {f : SettingsFault} {v : Value}
  {text? : Option String}

lemma written_eq_error (h : SettingsFault.written text? = .error f) : f = .unwritable := by
  cases text? with
  | none => exact (Except.error.inj h).symm
  | some s => cases h

lemma url_eq_error (h : url settings key = .error f) : f = .unwritable := by
  cases hvalue : urlValue? settings key with
  | none =>
    rw [url_of_nothing hvalue] at h
    cases h
  | some v =>
    rw [url_of_value hvalue] at h
    exact written_eq_error h

lemma textOr_eq_error (h : textOr settings key default = .error f) : f = .unwritable := by
  obtain ⟨text?, -, htext⟩ := isText_textOr settings key default
  rw [htext] at h
  exact written_eq_error h

/-- A configuration can only be missed for the want of a text. -/
lemma build_eq_error (h : build name settings = .error f) : f = .unwritable := by
  rw [build] at h
  rcases bind_eq_error.1 h with h | ⟨_, -, h⟩
  · exact url_eq_error h
  rcases bind_eq_error.1 h with h | ⟨_, -, h⟩
  · exact url_eq_error h
  rcases bind_eq_error.1 h with h | ⟨_, -, h⟩
  · exact textOr_eq_error h
  rcases bind_eq_error.1 h with h | ⟨_, -, h⟩
  · exact textOr_eq_error h
  rcases bind_eq_error.1 h with h | ⟨_, -, h⟩
  · exact textOr_eq_error h
  · cases h

lemma exists_written (h : v.IsWritable) : ∃ s, SettingsFault.written v.plain? = .ok s := by
  obtain ⟨s, hs⟩ := h.exists_plain?
  exact ⟨s, by rw [hs]; rfl⟩

/-- The entries of the environment section have texts if all settings have. -/
lemma isWritable_of_envEntries (hselects : Selects settings)
    (hwritable : ∀ e ∈ settings, e.2.IsWritable)
    (h : (envEntries settings).get? (.str key) = some v) : v.IsWritable := by
  rw [envEntries] at h
  cases hsection : settings.get? envKey with
  | none =>
    rw [hsection] at h
    cases h
  | some w =>
    obtain ⟨env, rfl, -⟩ := hselects w hsection
    rw [hsection] at h
    obtain ⟨e, he, -, hvalue⟩ := Entries.exists_of_get? hsection
    have henv : Entries.AreWritable env := Value.isWritable_map.1 (hvalue ▸ hwritable e he)
    exact henv.of_get? h

lemma exists_url (hselects : Selects settings) (hwritable : ∀ e ∈ settings, e.2.IsWritable)
    (key : String) : ∃ s, url settings key = .ok s := by
  have htop {v : Value} (h : settings.get? (.str key) = some v) : v.IsWritable := by
    obtain ⟨e, he, -, rfl⟩ := Entries.exists_of_get? h
    exact hwritable e he
  have hvalue {v : Value} (h : urlValue? settings key = some v) : v.IsWritable := by
    rw [urlValue?] at h
    split at h
    · next henv =>
      split_ifs at h
      · exact htop h
      · exact Option.some.inj h ▸ isWritable_of_envEntries hselects hwritable henv
    · exact htop h
  cases hfound : urlValue? settings key with
  | none => exact ⟨"", url_of_nothing hfound⟩
  | some v =>
    rw [url_of_value hfound]
    unfold settingText?
    split
    · exact ⟨"", rfl⟩
    · exact exists_written (hvalue hfound)

lemma exists_textOr (hselects : Selects settings) (hwritable : ∀ e ∈ settings, e.2.IsWritable)
    (key default : String) : ∃ s, textOr settings key default = .ok s := by
  rw [textOr]
  split
  · next henv =>
    split_ifs
    · exact exists_written (isWritable_of_envEntries hselects hwritable henv)
    · exact ⟨_, rfl⟩
  · exact ⟨_, rfl⟩

/-- Settings whose values have texts make a configuration. -/
lemma exists_build (hselects : Selects settings) (hwritable : ∀ e ∈ settings, e.2.IsWritable)
    (name : String) : ∃ c, build name settings = .ok c := by
  have hurl := exists_url hselects hwritable
  have htext := exists_textOr hselects hwritable
  obtain ⟨_, hbaseUrl⟩ := hurl "baseUrl"
  obtain ⟨_, hapiUrl⟩ := hurl "apiUrl"
  obtain ⟨_, hlabel⟩ := htext "environment" name
  obtain ⟨_, hidentifier⟩ := htext "username" ""
  obtain ⟨_, hsecret⟩ := htext "password" ""
  rw [build, hbaseUrl, hapiUrl, hlabel, hidentifier, hsecret]
  exact ⟨_, rfl⟩

end RunConfig

/-! ### The selection of a configuration -/

/-- A selection of texts is regular and fails by the wording of its filter alone. -/
lemma RunSelection.ofSettings_str (raw titlePattern : String) (options : SelectionOptions) :
    ofSettings (.str raw) (.str titlePattern) options =
      (Selection.ofTexts raw titlePattern options).map .regular := by
  have htext (s : String) : (if (Value.str s).truthy then Value.str s else .str "") = .str s := by
    split_ifs with htrue
    · rfl
    · have hempty : s = "" := by simpa [Value.truthy, Scalar.truthy] using htrue
      rw [hempty]
  simp only [ofSettings, htext]

namespace SelectionChoice

open Settings (Selects AreTexts textKeys)

variable {settings : Entries} {name : String} {c : RunConfig}

/-- The environment section of a configuration is a mapping, in which texts are where they have to
be. -/
lemma exists_entries_env (h : Selects settings) (hc : RunConfig.build name settings = .ok c) :
    ∃ env, c.env.entries? = some env ∧ AreTexts env := by
  have henv : c.env = ((settings.get? Settings.envKey).map Value.freeze).getD (.view []) := by
    rw [RunConfig.env, (RunConfig.of_build_eq_ok hc).2, Entries.get?_freezeEntries]
  rw [henv]
  cases hsection : settings.get? Settings.envKey with
  | none => exact ⟨[], rfl, Settings.areTexts_nil⟩
  | some v =>
    obtain ⟨env, rfl, htexts⟩ := h v hsection
    refine ⟨freezeEntries env, by simp [Value.freeze, Value.entries?], fun key hkey w hw => ?_⟩
    rw [Entries.get?_freezeEntries, Option.map_eq_some_iff] at hw
    obtain ⟨u, hu, rfl⟩ := hw
    obtain ⟨s, rfl⟩ := htexts key hkey u hu
    exact ⟨s, rfl⟩

lemma setting_eq {env : Entries} (h : c.env.entries? = some env) (key : String)
    (default : Value) : setting c key default = .ok ((env.get? (.str key)).getD default) := by
  rw [setting, h]

lemma exists_switchOr {env : Entries} (h : c.env.entries? = some env) (key : String)
    (asked? : Option Bool) : ∃ b, switchOr c key asked? = .ok b := by
  cases asked? with
  | some b => exact ⟨b, rfl⟩
  | none => exact ⟨_, by rw [switchOr, setting_eq h, Except.map]⟩

lemma exists_textOr {env : Entries} (h : c.env.entries? = some env) (htexts : AreTexts env)
    (key : String) (hkey : key ∈ textKeys) (asked? : Option String) :
    ∃ s, textOr c key asked? = .ok (.str s) := by
  cases asked? with
  | some s => exact ⟨s, rfl⟩
  | none =>
    rw [textOr, setting_eq h]
    cases hfound : env.get? (.str key) with
    | none => exact ⟨"", rfl⟩
    | some w =>
      obtain ⟨s, rfl⟩ := htexts key hkey w hfound
      exact ⟨s, rfl⟩

/-- A selection that is read off a configuration fails by the wording of its filter alone. -/
lemma select_eq_error (h : Selects settings) (hc : RunConfig.build name settings = .ok c)
    (choice : SelectionChoice) {f : SelectionError} (hfails : choice.select c = .error f) :
    ∃ raw fault, f = .malformed raw fault := by
  obtain ⟨env, henv, htexts⟩ := exists_entries_env h hc
  obtain ⟨filterSpecs, hfilterSpecs⟩ := exists_switchOr henv "grepFilterSpecs" choice.filterSpecs?
  obtain ⟨omitFiltered, homitFiltered⟩ :=
    exists_switchOr henv "grepOmitFiltered" choice.omitFiltered?
  obtain ⟨raw, hraw⟩ := exists_textOr henv htexts "grepTags" (by decide) choice.tags?
  obtain ⟨title, htitle⟩ := exists_textOr henv htexts "grep" (by decide) choice.title?
  have hselect : choice.select c =
      RunSelection.ofSettings (.str raw) (.str title) ⟨filterSpecs, omitFiltered⟩ := by
    simp only [select, options, hfilterSpecs, homitFiltered, hraw, htitle]
    rfl
  rw [hselect, RunSelection.ofSettings_str, map_eq_error, Selection.ofTexts] at hfails
  split at hfails
  · cases hfails
  · cases hfails
    exact ⟨_, _, rfl⟩

end SelectionChoice

end TaggedSuite
