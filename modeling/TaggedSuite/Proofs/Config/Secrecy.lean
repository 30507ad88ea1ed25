import TaggedSuite.Proofs.Config.Twins
import TaggedSuite.Proofs.Value.SameExcept
import TaggedSuite.Proofs.Value.Writable

/-!
# Configurations that differ in their secret

Two overlays are the same but for the password in their environment section. When they are merged
onto base settings and a configuration is built from the result, nothing but the secret of the
credentials and the settings of the environment section can tell one from the other. Whatever shows
a configuration leaves these out. A password without a text would show, since no configuration is
had with it, so of two passwords either both have a text or neither has.
-/
namespace TaggedSuite

open Entries (SameExcept)

/-- Passwords that are told apart by nothing but their texts. -/
structure Value.PasswordsAlike (v w : Value) : Prop where
  isCopyable : w.isCopyable = v.isCopyable
  isWritable : w.IsWritable ↔ v.IsWritable

/-- Only what counts as true can be without a text. -/
lemma Value.truthy_of_not_isWritable {v : Value} (h : ¬v.IsWritable) : v.truthy = true := by
  cases v with
  | scalar s =>
    rw [isWritable_scalar] at h
    cases s with
    | int i =>
      rw [truthy, Scalar.truthy, bne_iff_ne]
      rintro rfl
      exact h rfl
    | _ => exact absurd rfl h
  | list items =>
    cases items with
    | nil => exact absurd rfl h
    | cons _ _ => rfl
  | tuple items =>
    cases items with
    | nil => exact absurd rfl h
    | cons _ _ => rfl
  | map entries =>
    cases entries with
    | nil => exact absurd rfl h
    | cons _ _ => rfl
  | view entries =>
    cases entries with
    | nil => exact absurd rfl h
    | cons _ _ => rfl
  | set members =>
    cases members with
    | nil => exact absurd rfl h
    | cons _ _ => rfl

namespace Settings

/-- Two environment sections that are the same but for the password. -/
inductive SectionsApart (Secrets : Value → Value → Prop) : Value → Value → Prop
  | map {env env' : Entries} (h : SameExcept "password" Secrets env env') :
    SectionsApart Secrets (.map env) (.map env')
  | view {env env' : Entries} (h : SameExcept "password" Secrets env env') :
    SectionsApart Secrets (.view env) (.view env')

/-- Settings that are the same but for the password in the environment section. -/
def Apart (Secrets : Value → Value → Prop) (settings settings' : Entries) : Prop :=
  SameExcept "env" (SectionsApart Secrets) settings settings'

variable {Secrets : Value → Value → Prop} {settings settings' base base' top top' : Entries}
  {v w : Value}

/-- The entries of the environment section are the same but for the password. -/
lemma rel_entries? (h : w = v ∨ SectionsApart Secrets v w) :
    Option.Rel (SameExcept "password" Secrets) v.entries? w.entries? := by
  rcases h with rfl | hsections
  · cases w.entries? with
    | none => exact .none
    | some env => exact .some (.refl env)
  · cases hsections with
    | map henv | view henv => exact .some henv

lemma rel_bind_entries? {v? w? : Option Value}
    (h : Option.Rel (fun v w => w = v ∨ SectionsApart Secrets v w) v? w?) :
    Option.Rel (SameExcept "password" Secrets) (v?.bind Value.entries?)
      (w?.bind Value.entries?) := by
  cases h with
  | none => exact .none
  | some h => exact rel_entries? h

/-! ### Copies -/

lemma haveCopies_sameExcept {key : String} {Others : Value → Value → Prop}
    (hothers : ∀ v w, Others v w → w.isCopyable = v.isCopyable)
    (h : SameExcept key Others settings settings') :
    haveCopies settings' = haveCopies settings := by
  induction h with
  | nil => rfl
  | @cons d e _ _ hde _ ih =>
    have hvalue : e.2.isCopyable = d.2.isCopyable := by
      rcases hde.2 with hsame | ⟨-, hvalues⟩
      · rw [hsame]
      · exact hothers _ _ hvalues
    rw [haveCopies, haveCopies, hvalue, ih]

section
variable (hsecrets : ∀ v w, Secrets v w → v.PasswordsAlike w)
include hsecrets

lemma SectionsApart.haveCopies {env env' : Entries}
    (h : SameExcept "password" Secrets env env') : haveCopies env' = haveCopies env :=
  haveCopies_sameExcept (fun v w hvw => (hsecrets v w hvw).isCopyable) h

lemma SectionsApart.isCopyable (h : SectionsApart Secrets v w) : w.isCopyable = v.isCopyable := by
  cases h with
  | map henv => exact haveCopies hsecrets henv
  | view => rfl

lemma Apart.copy (h : Apart Secrets settings settings') :
    Outcomes Eq (Apart Secrets) (Entries.copy settings) (Entries.copy settings') := by
  have hcopies : haveCopies settings' = haveCopies settings :=
    haveCopies_sameExcept (fun _ _ => SectionsApart.isCopyable hsecrets) h
  rw [Entries.copy, Entries.copy, hcopies]
  split_ifs
  · exact .ok h
  · exact .error rfl

/-! ### Merging -/

/-- A value of the overlay replaces the setting as a whole. -/
lemma Apart.replace {key : Scalar} (h : Apart Secrets settings settings')
    (hvalues : w = v ∨ key = envKey ∧ SectionsApart Secrets v w) :
    Outcomes Eq (Apart Secrets) (do return settings.insert key (← v.copy))
      (do return settings'.insert key (← w.copy)) := by
  have hcopies : w.isCopyable = v.isCopyable := by
    rcases hvalues with rfl | ⟨-, hsections⟩
    · rfl
    · exact hsections.isCopyable hsecrets
  rw [Value.copy, Value.copy, hcopies]
  split_ifs
  · exact .ok (SameExcept.insert h hvalues)
  · exact .error rfl

/-- One setting of an overlay is put over settings. -/
lemma Apart.mergeEntry {key : Scalar} (h : Apart Secrets settings settings')
    (hvalues : w = v ∨ key = envKey ∧ SectionsApart Secrets v w) :
    Outcomes Eq (Apart Secrets) (mergeEntry settings key v) (mergeEntry settings' key w) := by
  have hwhole := h.replace hsecrets hvalues
  by_cases henv : key = envKey
  · have hsections : w = v ∨ SectionsApart Secrets v w := hvalues.imp_right And.right
    have htop := rel_entries? hsections
    have hbottom := rel_bind_entries? (SameExcept.get? h)
    subst henv
    rw [Settings.mergeEntry, Settings.mergeEntry, BEq.rfl]
    rw [envKey] at hwhole ⊢
    revert htop hbottom
    generalize v.entries? = top?
    generalize w.entries? = top'?
    generalize (Entries.get? settings (.str "env")).bind Value.entries? = bottom?
    generalize (Entries.get? settings' (.str "env")).bind Value.entries? = bottom'?
    rintro (@⟨env, env', htop⟩ | _)
    · rintro (hbottom | _)
      · have hcopies := SectionsApart.haveCopies hsecrets htop
        dsimp only
        rw [Entries.copy, Entries.copy, hcopies]
        split_ifs
        · exact .ok (SameExcept.insert h (.inr ⟨rfl, .map (hbottom.overlay htop)⟩))
        · exact .error rfl
      · exact hwhole
    · intro
      exact hwhole
  · have hne : (key == envKey) = false := beq_eq_false_iff_ne.2 henv
    rw [Settings.mergeEntry, Settings.mergeEntry, hne]
    exact hwhole

/-- Settings that are the same but for the password stay so when an overlay is merged onto them. -/
lemma Apart.merge (hbase : Apart Secrets base base') (htop : Apart Secrets top top') :
    Outcomes Eq (Apart Secrets) (merge base top) (merge base' top') := by
  rw [Settings.merge, Settings.merge]
  refine (hbase.copy hsecrets).bind fun settings settings' h => ?_
  clear hbase
  induction htop generalizing settings settings' with
  | nil => exact .ok h
  | @cons d e _ _ hde _ ih =>
    obtain ⟨key, v⟩ := d
    obtain ⟨key', w⟩ := e
    obtain ⟨rfl, hvalues⟩ := hde
    rw [List.foldlM_cons, List.foldlM_cons]
    exact (h.mergeEntry hsecrets hvalues).bind fun _ _ => ih _ _

end

end Settings

namespace RunConfig

/-- Configurations that can only be told apart by what is secret, and by the environment section. -/
structure Apart (c c' : RunConfig) : Prop where
  name : c'.name = c.name
  baseUrl : c'.baseUrl = c.baseUrl
  apiUrl : c'.apiUrl = c.apiUrl
  label : c'.label = c.label
  identifier : c'.credentials.identifier = c.credentials.identifier
  settings : ∀ key, key ≠ Settings.envKey → c'.settings.get? key = c.settings.get? key

namespace Apart

variable {c c' : RunConfig}

lemma text (h : Apart c c') : c'.text = c.text := by
  unfold RunConfig.text
  simp only [h.name, h.baseUrl, h.apiUrl, h.label, h.identifier]

lemma shown_credentials (h : Apart c c') : c'.credentials.shown = c.credentials.shown := by
  unfold Credentials.shown
  rw [h.identifier]

lemma shown (h : Apart c c') : c'.shown = c.shown := by
  unfold RunConfig.shown
  simp only [h.name, h.baseUrl, h.apiUrl, h.label, h.shown_credentials]

end Apart

variable {Secrets : Value → Value → Prop} {settings settings' : Entries} {key default : String}

lemma envEntries_apart (h : Settings.Apart Secrets settings settings') :
    SameExcept "password" Secrets (envEntries settings) (envEntries settings') := by
  have hentries := Settings.rel_bind_entries? (SameExcept.get? h)
  rw [envEntries, envEntries, sectionEntries, sectionEntries, Settings.envKey]
  revert hentries
  generalize (settings.get? (.str "env")).bind Value.entries? = a
  generalize (settings'.get? (.str "env")).bind Value.entries? = b
  rintro (henv | _)
  · exact henv
  · exact .refl []

lemma url_apart (h : Settings.Apart Secrets settings settings') (hpassword : key ≠ "password")
    (hkey : key ≠ "env") : url settings' key = url settings key := by
  have henv := (envEntries_apart h).get?_of_ne (k := .str key) (by simpa using hpassword)
  have htop := h.get?_of_ne (k := .str key) (by simpa using hkey)
  rw [url, url, urlValue?, urlValue?, henv, htop]

lemma textOr_apart (h : Settings.Apart Secrets settings settings') (hpassword : key ≠ "password")
    (default : String) : textOr settings' key default = textOr settings key default := by
  rw [textOr, textOr, (envEntries_apart h).get?_of_ne (by simpa using hpassword)]

/-- Either of two passwords has a text if the other one has. -/
lemma password_apart (hsecrets : ∀ v w, Secrets v w → v.PasswordsAlike w)
    (h : Settings.Apart Secrets settings settings') (default : String) :
    Outcomes Eq (fun _ _ => True) (textOr settings "password" default)
      (textOr settings' "password" default) := by
  have hgiven (v : Value) (hv : v.IsWritable) :
      ∃ s, (if v.truthy then SettingsFault.written v.plain? else .ok default) = .ok s := by
    split_ifs
    · obtain ⟨s, hs⟩ := hv.exists_plain?
      exact ⟨s, by rw [hs]; rfl⟩
    · exact ⟨default, rfl⟩
  have hmissing (v : Value) (hv : ¬v.IsWritable) :
      (if v.truthy then SettingsFault.written v.plain? else .ok default) = .error .unwritable := by
    rw [if_pos (Value.truthy_of_not_isWritable hv), Value.plain?_eq_none_iff.2 hv]
    rfl
  have hfound := (envEntries_apart h).get?
  rw [textOr, textOr]
  generalize (envEntries settings).get? (.str "password") = v? at hfound
  generalize (envEntries settings').get? (.str "password") = w? at hfound
  cases hfound with
  | none => exact .ok trivial
  | @some v w hvw =>
    have hboth : w.IsWritable ↔ v.IsWritable := by
      rcases hvw with rfl | hvw
      · rfl
      · exact (hsecrets v w hvw).isWritable
    by_cases hv : v.IsWritable
    · obtain ⟨s, hs⟩ := hgiven v hv
      obtain ⟨t, ht⟩ := hgiven w (hboth.2 hv)
      dsimp only
      rw [hs, ht]
      exact .ok trivial
    · dsimp only
      rw [hmissing v hv, hmissing w (mt hboth.1 hv)]
      exact .error rfl

/-- What is built from settings that are the same but for the password. -/
lemma apart_build (hsecrets : ∀ v w, Secrets v w → v.PasswordsAlike w)
    (h : Settings.Apart Secrets settings settings') (name : String) :
    Outcomes Eq Apart (build name settings) (build name settings') := by
  have hother (key : Scalar) (hkey : key ≠ Settings.envKey) :
      Entries.get? (freezeEntries settings') key = Entries.get? (freezeEntries settings) key := by
    rw [Entries.get?_freezeEntries, Entries.get?_freezeEntries, h.get?_of_ne hkey]
  rw [build, build, url_apart h (by decide) (by decide), url_apart h (by decide) (by decide),
    textOr_apart h (by decide), textOr_apart h (by decide)]
  refine .bind_same fun baseUrl => .bind_same fun apiUrl => ?_
  refine .bind_same fun label => .bind_same fun identifier => ?_
  exact (password_apart hsecrets h "").bind fun _ _ _ => .ok ⟨rfl, rfl, rfl, rfl, rfl, hother⟩

lemma buildLog_apart (h : Settings.Apart Secrets settings settings') (name : String) :
    buildLog name settings' = buildLog name settings := by
  rw [buildLog, buildLog, url_apart h (by decide) (by decide)]

end RunConfig

namespace Overlays

variable {Secrets : Value → Value → Prop} {base base' : Entries} {overlays overlays' : Overlays}

/-- Overlays with the same names that are the same but for passwords resolve to configurations that
are, or to the same error. They write the same to the log. -/
lemma resolve_apart (hsecrets : ∀ v w, Secrets v w → v.PasswordsAlike w) (name : String)
    (hbase : Settings.Apart Secrets base base')
    (h : Loader.OverlaysOf (Settings.Apart Secrets) overlays overlays') :
    resolveLog name base' overlays' = resolveLog name base overlays ∧
      Outcomes Eq RunConfig.Apart (resolve name base overlays) (resolve name base' overlays') := by
  have hnames : overlays'.names = overlays.names := by
    rw [names, names, Loader.OverlaysOf.names h]
  have hlookup := Loader.OverlaysOf.lookup h (Text.strip name)
  rw [resolve, resolve, resolveLog, resolveLog, hnames]
  revert hlookup
  generalize overlays.lookup (Text.strip name) = a
  generalize overlays'.lookup (Text.strip name) = b
  rintro (@⟨overlay, overlay', hoverlay⟩ | _)
  · have hmerged := hbase.merge hsecrets hoverlay
    dsimp only [Option.map_some]
    generalize Settings.merge base overlay = x at hmerged
    generalize Settings.merge base' overlay' = y at hmerged
    cases hmerged with
    | error hf =>
      subst hf
      exact ⟨rfl, .error rfl⟩
    | @ok settings settings' hsettings =>
      have hbuilt := RunConfig.apart_build hsecrets hsettings (Text.strip name)
      have hlog := RunConfig.buildLog_apart hsettings (Text.strip name)
      show _ = _ ∧ Outcomes Eq _ ((RunConfig.build _ settings).mapError _)
        ((RunConfig.build _ settings').mapError _)
      dsimp only
      rw [hlog]
      generalize RunConfig.build (Text.strip name) settings = c? at hbuilt
      generalize RunConfig.build (Text.strip name) settings' = c'? at hbuilt
      cases hbuilt with
      | error hf =>
        subst hf
        exact ⟨rfl, .error rfl⟩
      | ok hc =>
        dsimp only
        rw [hc.text]
        exact ⟨rfl, .ok hc⟩
  · exact ⟨rfl, .error rfl⟩

end Overlays

end TaggedSuite
