import TaggedSuite.Config.Basic
import TaggedSuite.Proofs.Config.Merging
import TaggedSuite.Proofs.Value.Freezing
import TaggedSuite.Proofs.Value.Writable

/-!
# Where the fields of a configuration come from

A configuration is built from merged settings, but each of its fields can be told from the base
settings and the overlay themselves. A URL has four homes, of which the first one that has it wins:
the environment section, which is that of both sides, the top level of the overlay, the top level of
the base settings, and nowhere. The other fields stand in the environment section alone and have a
default. An environment section that is no mapping holds nothing. A configuration is only had if
each field has a text: an integer with too many digits has none.
-/
namespace TaggedSuite

namespace Value

variable {v : Value}

lemma isBlankText_iff : v.isBlankText = true ↔ v = .null ∨ v = .str "" := by
  unfold isBlankText
  split <;> simp_all

end Value

namespace Settings

open Value (IsChangeable)

variable {base top settings : Entries}

/-- The environment section of an overlay over that of base settings, as far as it is a mapping. -/
def effectiveEnv (base overlay : Entries) : Entries :=
  RunConfig.sectionEntries (mergedSection (base.get? envKey) (overlay.get? envKey))

/-! ### Plain settings stay plain -/

/-- What is merged from plain settings is plain. -/
lemma isChangeable_layer (hbase : IsChangeable (.map base)) (htop : IsChangeable (.map top)) :
    IsChangeable (.map (layer base top)) := by
  refine .map (distinct_layer hbase.distinct htop.distinct)
    (forall_mem_layer ?_ (fun e => hbase.value) fun e => htop.value)
  intro lower upper below above hlower hbelow hupper habove
  obtain rfl := hlower.eq_map hbelow
  obtain rfl := hupper.eq_map habove
  exact hlower.overlay hupper

/-- Plain settings can be merged. -/
lemma merge_of_isChangeable (hbase : IsChangeable (.map base)) (htop : IsChangeable (.map top)) :
    merge base top = .ok (layer base top) :=
  merge_eq_ok hbase.isKeyed.haveCopies htop.isKeyed.haveCopies

end Settings

namespace RunConfig

open Settings (envKey effectiveEnv)
open Value (IsChangeable)

variable {name key default : String} {base overlay settings env : Entries} {c : RunConfig}
  {text? : Option String} {s : String} {f : SettingsFault}

/-- The settings of a configuration that was built are frozen ones, under the name. -/
lemma of_build_eq_ok (h : build name settings = .ok c) :
    c.name = name ∧ c.settings = freezeEntries settings := by
  rw [build] at h
  obtain ⟨baseUrl, -, h⟩ := bind_eq_ok.1 h
  obtain ⟨apiUrl, -, h⟩ := bind_eq_ok.1 h
  obtain ⟨label, -, h⟩ := bind_eq_ok.1 h
  obtain ⟨identifier, -, h⟩ := bind_eq_ok.1 h
  obtain ⟨secret, -, h⟩ := bind_eq_ok.1 h
  cases h
  exact ⟨rfl, rfl⟩

/-- The settings of a configuration that was built from plain ones are these. -/
lemma toEntries_build (hplain : IsChangeable (.map settings)) (h : build name settings = .ok c) :
    c.toEntries = settings := by
  rw [toEntries, (of_build_eq_ok h).2]
  exact hplain.thawEntries_freezeEntries

/-! ### Homes -/

/-- The text of a setting that may be null. -/
def settingText? : Value → Option String
  | .scalar .null => some ""
  | v => v.plain?

/-- Where a URL comes from. Null and the empty text in the environment section leave it open. -/
inductive IsUrl (env overlay base : Entries) (key : Scalar) : Option String → Prop
  | ofEnv {v : Value} (hv : env.get? key = some v) (hnull : v ≠ .null) (hempty : v ≠ .str "") :
    IsUrl env overlay base key v.plain?
  | ofOverlay {v : Value} (hopen : ∀ w, env.get? key = some w → w = .null ∨ w = .str "")
    (hv : overlay.get? key = some v) : IsUrl env overlay base key (settingText? v)
  | ofBase {v : Value} (hopen : ∀ w, env.get? key = some w → w = .null ∨ w = .str "")
    (hoverlay : overlay.get? key = none) (hv : base.get? key = some v) :
    IsUrl env overlay base key (settingText? v)
  | ofNothing (hopen : ∀ w, env.get? key = some w → w = .null ∨ w = .str "")
    (hoverlay : overlay.get? key = none) (hbase : base.get? key = none) :
    IsUrl env overlay base key (some "")

/-- Where a text of the environment section comes from. A value that does not count as true leaves
it to the default. -/
inductive IsText (env : Entries) (key : Scalar) (default : String) : Option String → Prop
  | ofEnv {v : Value} (hv : env.get? key = some v) (htrue : v.truthy = true) :
    IsText env key default v.plain?
  | ofDefault (hfalse : ∀ v, env.get? key = some v → v.truthy = false) :
    IsText env key default (some default)

/-- The configuration with a name comes from base settings and an overlay. -/
structure ComesFrom (name : String) (base overlay : Entries) (c : RunConfig) : Prop where
  baseUrl : IsUrl (effectiveEnv base overlay) overlay base (.str "baseUrl") (some c.baseUrl)
  apiUrl : IsUrl (effectiveEnv base overlay) overlay base (.str "apiUrl") (some c.apiUrl)
  label : IsText (effectiveEnv base overlay) (.str "environment") name (some c.label)
  identifier :
    IsText (effectiveEnv base overlay) (.str "username") "" (some c.credentials.identifier)
  secret : IsText (effectiveEnv base overlay) (.str "password") "" (some c.credentials.secret)
  /-- A setting is that of the overlay, read-only, or else that of the base settings. -/
  setting : ∀ key ≠ envKey,
    c.settings.get? key = ((overlay.get? key).or (base.get? key)).map Value.freeze
  /-- In the changeable copy it is what it was. -/
  copied : ∀ key ≠ envKey, c.toEntries.get? key = (overlay.get? key).or (base.get? key)
  name : c.name = name

/-- A field of the configuration comes from something without a text. -/
def LacksText (base overlay : Entries) : Prop :=
  (∃ key ∈ ["baseUrl", "apiUrl"],
    IsUrl (effectiveEnv base overlay) overlay base (.str key) none) ∨
  ∃ key ∈ ["environment", "username", "password"],
    ∀ default, IsText (effectiveEnv base overlay) (.str key) default none

lemma lacksText_int {i : Int} (h : ¬Scalar.IsWritable (.int i)) :
    LacksText [] [(.str "apiUrl", .int i)] := by
  have hlong : settingText? (.int i) = none := by
    rwa [← Value.isWritable_scalar, ← Value.plain?_eq_none_iff] at h
  exact .inl ⟨"apiUrl", by simp, hlong ▸ .ofOverlay nofun rfl⟩

/-! ### A text has one home -/

lemma IsUrl.unique {key : Scalar} {other? : Option String}
    (h : IsUrl env overlay base key text?) (hother : IsUrl env overlay base key other?) :
    text? = other? := by
  cases h <;> cases hother <;> simp_all

lemma IsText.unique {key : Scalar} {other? : Option String} (h : IsText env key default text?)
    (hother : IsText env key default other?) : text? = other? := by
  cases h <;> cases hother <;> simp_all

/-- A configuration that comes from settings has a text in every field. -/
lemma ComesFrom.not_lacksText (h : ComesFrom name base overlay c) : ¬LacksText base overlay := by
  rintro (⟨key, hkey, hurl⟩ | ⟨key, hkey, htext⟩)
  · simp only [List.mem_cons, List.not_mem_nil, or_false] at hkey
    rcases hkey with rfl | rfl
    · cases hurl.unique h.baseUrl
    · cases hurl.unique h.apiUrl
  · simp only [List.mem_cons, List.not_mem_nil, or_false] at hkey
    rcases hkey with rfl | rfl | rfl
    · cases (htext name).unique h.label
    · cases (htext "").unique h.identifier
    · cases (htext "").unique h.secret

/-! ### Building -/

lemma url_of_value {v : Value} (h : urlValue? settings key = some v) :
    url settings key = SettingsFault.written (settingText? v) := by
  rw [url, h]
  cases v with
  | scalar s => cases s <;> rfl
  | _ => rfl

lemma url_of_nothing (h : urlValue? settings key = none) : url settings key = .ok "" := by
  rw [url, h]

/-- The top level is looked at if the environment section leaves a URL open. -/
lemma urlValue?_of_open
    (hopen : ∀ w, (envEntries settings).get? (.str key) = some w → w = .null ∨ w = .str "") :
    urlValue? settings key = settings.get? (.str key) := by
  rw [urlValue?]
  cases henv : (envEntries settings).get? (.str key) with
  | none => rfl
  | some v => exact if_pos (Value.isBlankText_iff.2 (hopen v henv))

lemma urlValue?_of_set {v : Value} (henv : (envEntries settings).get? (.str key) = some v)
    (hnull : v ≠ .null) (hempty : v ≠ .str "") : urlValue? settings key = some v := by
  rw [urlValue?, henv]
  exact if_neg fun h => (Value.isBlankText_iff.1 h).elim hnull hempty

/-- A URL has one of its homes if the top level is that of the overlay over the base settings. -/
lemma isUrl_url
    (htop : settings.get? (.str key) = (overlay.get? (.str key)).or (base.get? (.str key))) :
    ∃ text?, IsUrl (envEntries settings) overlay base (.str key) text? ∧
      url settings key = SettingsFault.written text? := by
  by_cases hopen : ∀ w, (envEntries settings).get? (.str key) = some w → w = .null ∨ w = .str ""
  · have hvalue := urlValue?_of_open hopen
    rw [htop] at hvalue
    cases hoverlay : overlay.get? (.str key) with
    | some v =>
      rw [hoverlay] at hvalue
      exact ⟨_, .ofOverlay hopen hoverlay, url_of_value hvalue⟩
    | none =>
      rw [hoverlay, Option.none_or] at hvalue
      cases hbase : base.get? (.str key) with
      | some v => exact ⟨_, .ofBase hopen hoverlay hbase, url_of_value (hvalue.trans hbase)⟩
      | none => exact ⟨_, .ofNothing hopen hoverlay hbase, url_of_nothing (hvalue.trans hbase)⟩
  · push Not at hopen
    obtain ⟨v, henv, hnull, hempty⟩ := hopen
    have hvalue := url_of_value (urlValue?_of_set henv hnull hempty)
    have htext : settingText? v = v.plain? := by
      unfold settingText?
      split
      · contradiction
      · rfl
    exact ⟨_, .ofEnv henv hnull hempty, htext ▸ hvalue⟩

lemma isText_textOr (settings : Entries) (key default : String) :
    ∃ text?, IsText (envEntries settings) (.str key) default text? ∧
      textOr settings key default = SettingsFault.written text? := by
  rw [textOr]
  cases hfound : (envEntries settings).get? (.str key) with
  | none =>
    refine ⟨_, .ofDefault fun v hv => ?_, rfl⟩
    rw [hfound] at hv
    cases hv
  | some v =>
    cases htrue : v.truthy with
    | true => exact ⟨_, .ofEnv hfound htrue, by simp [htrue]⟩
    | false =>
      refine ⟨_, .ofDefault fun w hw => ?_, by simp [htrue, SettingsFault.written]⟩
      rw [hfound] at hw
      exact Option.some.inj hw ▸ htrue

/-- No text is missing because of the default. -/
lemma IsText.of_none {key : Scalar} (h : IsText env key default none) (other : String) :
    IsText env key other none := by
  generalize htext : (none : Option String) = text? at h
  cases h with
  | ofEnv hv htrue => exact .ofEnv hv htrue
  | ofDefault _ => cases htext

/-- A configuration is built from merged settings unless one of its fields has no text. -/
lemma build_layer (hbase : IsChangeable (.map base)) (hoverlay : IsChangeable (.map overlay))
    (name : String) :
    (∃ c, build name (Settings.layer base overlay) = .ok c ∧ ComesFrom name base overlay c) ∨
      build name (Settings.layer base overlay) = .error .unwritable ∧ LacksText base overlay := by
  have hmerged := Settings.isChangeable_layer hbase hoverlay
  have hother (key : Scalar) (hkey : key ≠ envKey) :
      (Settings.layer base overlay).get? key = (overlay.get? key).or (base.get? key) :=
    Settings.get?_layer_of_ne hoverlay.distinct base hkey
  have henv : envEntries (Settings.layer base overlay) = effectiveEnv base overlay := by
    rw [envEntries, Settings.get?_layer_env hoverlay.distinct, effectiveEnv]
  have hurl (key : String) (hkey : key ≠ "env") :=
    isUrl_url (hother (.str key) (by simpa [envKey] using hkey))
  have htext := isText_textOr (Settings.layer base overlay)
  rw [henv] at hurl htext
  obtain ⟨baseUrl?, hbaseUrl, hbaseUrl'⟩ := hurl "baseUrl" (by decide)
  obtain ⟨apiUrl?, hapiUrl, hapiUrl'⟩ := hurl "apiUrl" (by decide)
  obtain ⟨label?, hlabel, hlabel'⟩ := htext "environment" name
  obtain ⟨identifier?, hidentifier, hidentifier'⟩ := htext "username" ""
  obtain ⟨secret?, hsecret, hsecret'⟩ := htext "password" ""
  rw [build, hbaseUrl', hapiUrl', hlabel', hidentifier', hsecret']
  rcases baseUrl? with _ | baseUrl
  · exact .inr ⟨rfl, .inl ⟨_, by simp, hbaseUrl⟩⟩
  rcases apiUrl? with _ | apiUrl
  · exact .inr ⟨rfl, .inl ⟨_, by simp, hapiUrl⟩⟩
  rcases label? with _ | label
  · exact .inr ⟨rfl, .inr ⟨_, by simp, hlabel.of_none⟩⟩
  rcases identifier? with _ | identifier
  · exact .inr ⟨rfl, .inr ⟨_, by simp, hidentifier.of_none⟩⟩
  rcases secret? with _ | secret
  · exact .inr ⟨rfl, .inr ⟨_, by simp, hsecret.of_none⟩⟩
  refine .inl ⟨_, rfl, hbaseUrl, hapiUrl, hlabel, hidentifier, hsecret, fun key hkey => ?_,
    fun key hkey => ?_, rfl⟩
  · rw [← hother key hkey]
    exact Entries.get?_freezeEntries _ key
  · rw [← hother key hkey, toEntries, hmerged.thawEntries_freezeEntries]

/-- A field that comes from an integer with too many digits keeps a configuration from being built.
-/
lemma build_layer_eq_error_iff (hbase : IsChangeable (.map base))
    (hoverlay : IsChangeable (.map overlay)) (name : String) :
    build name (Settings.layer base overlay) = .error f ↔
      f = .unwritable ∧ LacksText base overlay := by
  rcases build_layer hbase hoverlay name with ⟨c, hc, hcomes⟩ | ⟨herror, hlacks⟩
  · rw [hc]
    exact iff_of_false nofun fun h => hcomes.not_lacksText h.2
  · rw [herror, Except.error.injEq, eq_comm, and_iff_left hlacks]

end RunConfig

namespace Overlays

open Value (IsChangeable)

lemma resolve_of_registered {name : String} {base overlay : Entries} {overlays : Overlays}
    (hregistered : overlays.lookup (Text.strip name) = some overlay)
    (hbase : IsChangeable (.map base)) (hoverlay : IsChangeable (.map overlay)) :
    resolve name base overlays =
      (RunConfig.build (Text.strip name) (Settings.layer base overlay)).mapError .unsettled := by
  simp only [resolve, hregistered, Settings.merge_of_isChangeable hbase hoverlay]
  rfl

/-- An environment that has an overlay resolves, whatever its name is surrounded by, and every field
of the configuration comes from where it has to, unless what one of them comes from has no text.
Then the error says that an integer has too many digits. -/
theorem resolve_comesFrom {name : String} {base overlay : Entries} {overlays : Overlays}
    (hregistered : overlays.lookup (Text.strip name) = some overlay)
    (hbase : IsChangeable (.map base)) (hoverlay : IsChangeable (.map overlay)) :
    (∀ c, resolve name base overlays = .ok c →
      RunConfig.ComesFrom (Text.strip name) base overlay c) ∧
    ∀ e, resolve name base overlays = .error e ↔
      e = .unsettled .unwritable ∧ RunConfig.LacksText base overlay := by
  rw [resolve_of_registered hregistered hbase hoverlay]
  constructor
  · intro c hc
    rcases RunConfig.build_layer hbase hoverlay (Text.strip name) with ⟨d, hd, hcomes⟩ | ⟨he, -⟩
    · rw [hd] at hc
      cases hc
      exact hcomes
    · rw [he] at hc
      cases hc
  · intro e
    rw [mapError_eq_error]
    constructor
    · rintro ⟨f, hf, rfl⟩
      obtain ⟨rfl, hlacks⟩ := (RunConfig.build_layer_eq_error_iff hbase hoverlay _).1 hf
      exact ⟨rfl, hlacks⟩
    · rintro ⟨rfl, hlacks⟩
      exact ⟨_, (RunConfig.build_layer_eq_error_iff hbase hoverlay _).2 ⟨rfl, hlacks⟩, rfl⟩

/-- The section leaves the one URL to the base settings, and the overlay gives the other one up. -/
theorem resolve_comesFrom_shared :
    let base : Entries := [(.str "baseUrl", .str "https://a.test"), (.str "apiUrl", .str "/api"),
      (.str "env", .map [(.str "baseUrl", .str ""), (.str "username", .str "ana")])]
    let overlay : Entries := [(.str "apiUrl", .null), (.str "timeout", .int 9),
      (.str "env", .map [(.str "password", .int 1234), (.str "environment", .bool false)])]
    let overlays : Overlays := [("dev", []), ("qa", overlay)]
    (overlays.lookup (Text.strip " qa ") = some overlay ∧ IsChangeable (.map base) ∧
      IsChangeable (.map overlay)) ∧
    ∃ c, resolve " qa " base overlays = .ok c ∧
      RunConfig.ComesFrom (Text.strip " qa ") base overlay c := by
  intro base overlay overlays
  have hregistered : overlays.lookup (Text.strip " qa ") = some overlay := rfl
  have hbase : IsChangeable (.map base) := by
    simp +decide [base, Entries.HasDistinctKeys]
  have hoverlay : IsChangeable (.map overlay) := by
    simp +decide [overlay, Entries.HasDistinctKeys]
  have hok : (resolve " qa " base overlays).isOk = true := rfl
  refine ⟨⟨hregistered, hbase, hoverlay⟩, ?_⟩
  cases hc : resolve " qa " base overlays with
  | ok c => exact ⟨c, rfl, (resolve_comesFrom hregistered hbase hoverlay).1 c hc⟩
  | error e =>
    rw [hc] at hok
    cases hok

/-- An integer with too many digits on the top level is no address, and nothing resolves. -/
theorem resolve_unwritable :
    resolve "qa" [] [("qa", [(.str "apiUrl", .int (Numeral.unwritableBound : Nat))])] =
      .error (.unsettled .unwritable) := by
  have hlacks := RunConfig.lacksText_int (Scalar.not_isWritable_int (Nat.le_refl _))
  rw [resolve_of_registered rfl .nil (.singleton "apiUrl" _),
    (RunConfig.build_layer_eq_error_iff .nil (.singleton "apiUrl" _) _).2 ⟨rfl, hlacks⟩]
  rfl

-- the section goes before the overlay, also where it is that of the base settings
example :
    let base : Entries := [(.str "env", .map [(.str "baseUrl", .str "https://a.test")])]
    let overlay : Entries := [(.str "baseUrl", .str "https://b.test"), (.str "env", .map [])]
    (resolve "qa" base [("qa", overlay)]).map (·.baseUrl) = .ok "https://a.test" := rfl

end Overlays

end TaggedSuite
