import TaggedSuite.Proofs.Config.Loading
import TaggedSuite.Proofs.Config.Secrecy
import TaggedSuite.Proofs.Files.SameExcept
import TaggedSuite.Proofs.Schema.Bundled
import TaggedSuite.Proofs.Schema.Telling

/-!
# What loading a configuration discloses

Two projects have the same files, and one settings file gives the environment section another
password in the one project than in the other. A password that is a text without references does not
show itself, however loading ends. Any other password violates the schema of overlays, and the error
that lists the violations spells it out; nothing else does. An integer with too many digits cannot
be spelled out, so it shows itself by another error.
-/
namespace TaggedSuite

open Entries (SameExcept)
open Loading (Twins)
open Schema (Blind)

/-! ### Texts without references -/

namespace Expand

/-- No reference begins in the text. -/
def IsPlain (s : String) : Prop := ¬ ['$', '\x7b'] <:+: s.toList

instance (s : String) : Decidable (IsPlain s) :=
  inferInstanceAs (Decidable (¬ ['$', '\x7b'] <:+: s.toList))

lemma pieces_of_plain {cs : List Char} (h : ¬ ['$', '\x7b'] <:+: cs) :
    pieces cs = cs.map .char := by
  induction cs with
  | nil => rw [pieces, List.map_nil]
  | cons c cs ih =>
    have hrest : ¬ ['$', '\x7b'] <:+: cs := fun hcs => h (hcs.trans (List.suffix_cons c cs).isInfix)
    have hstart : ¬ (c = '$' ∧ cs.head? = some '\x7b') := by
      rintro ⟨rfl, hhead⟩
      obtain ⟨tail, rfl⟩ := List.head?_eq_some_iff.1 hhead
      exact h (List.prefix_append ['$', '\x7b'] tail).isInfix
    rw [pieces, if_neg hstart, ih hrest, List.map_cons]

lemma text_of_isPlain {s : String} (h : IsPlain s) (vars : Variables) (source : String) :
    text vars source s = .ok s := by
  have hpieces : (pieces s.toList).mapM (Piece.resolve vars source) =
      .ok (s.toList.map String.singleton) := by
    rw [mapM_eq_ok, pieces_of_plain h, List.forall₂_map_left_iff, List.forall₂_map_right_iff,
      List.forall₂_same]
    exact fun _ _ => rfl
  have hjoin : String.join (s.toList.map String.singleton) = s := by
    rw [← String.toList_inj, String.toList_join, List.flatMap_map]
    simp only [String.toList_singleton, List.flatMap_singleton']
  rw [text, hpieces]
  exact congrArg Except.ok hjoin

/-- Nothing is replaced in a scalar that is no text. -/
lemma value_of_not_text {v : Scalar} (h : ValueType.string.matches' (.scalar v) = false)
    (vars : Variables) (source : String) : value vars source (.scalar v) = .ok (.scalar v) := by
  cases v with
  | str s => contradiction
  | null | bool | int | num | day | moment | bytes => rfl

variable {key : String} {Others : Value → Value → Prop} {entries entries' : Entries}

/-- What stands under other keys is replaced in the same way. -/
lemma valueEntries_sameExcept {vars : Variables} {source : String}
    (hothers : ∀ v w, Others v w → Outcomes Eq Others (value vars source v) (value vars source w))
    (h : SameExcept key Others entries entries') :
    Outcomes Eq (SameExcept key Others) (valueEntries vars source entries)
      (valueEntries vars source entries') := by
  induction h with
  | nil => exact .ok .nil
  | @cons d e _ _ hde _ ih =>
    obtain ⟨k, v⟩ := d
    obtain ⟨k', w⟩ := e
    obtain ⟨rfl, hvalues⟩ := hde
    have hfirst : Outcomes Eq (fun v w => w = v ∨ k' = .str key ∧ Others v w)
        (value vars source v) (value vars source w) := by
      rcases hvalues with hsame | ⟨hkey, hvw⟩
      · have hboth : value vars source w = value vars source v :=
          congrArg (value vars source) hsame
        exact (Outcomes.of_eq (fun _ => rfl) hboth).imp fun _ _ h => .inl h.symm
      · exact (hothers v w hvw).imp fun _ _ h => .inr ⟨hkey, h⟩
    rw [valueEntries, valueEntries]
    refine hfirst.bind fun a b hab => ih.bind fun rest rest' hrest => ?_
    exact .ok (.cons ⟨rfl, hab⟩ hrest)

end Expand

/-! ### Passwords -/

/-- Two passwords that are told apart by nothing but what they are: texts without references, or
scalars that are no texts. Both of these can be shown, or neither can. -/
inductive Comparable : Scalar → Scalar → Prop
  | texts {s t : String} (hs : Expand.IsPlain s) (ht : Expand.IsPlain t) :
      Comparable (.str s) (.str t)
  | others {v w : Scalar} (hv : ValueType.string.matches' (.scalar v) = false)
      (hw : ValueType.string.matches' (.scalar w) = false) (hshown : w.IsWritable ↔ v.IsWritable) :
      Comparable v w

lemma Comparable.isWritable {v w : Scalar} (h : Comparable v w) : w.IsWritable ↔ v.IsWritable := by
  cases h with
  | texts => exact iff_of_true (Scalar.isWritable_str _) (Scalar.isWritable_str _)
  | others _ _ hshown => exact hshown

namespace Settings

variable {v w : Scalar} {settings settings' : Entries}

/-- The one value is the one password, the other value the other one. -/
def Passwords (v w : Scalar) (a b : Value) : Prop := a = .scalar v ∧ b = .scalar w

lemma passwordsAlike (h : Comparable v w) (a b : Value) (hab : Passwords v w a b) :
    a.PasswordsAlike b := by
  obtain ⟨rfl, rfl⟩ := hab
  refine ⟨rfl, ?_⟩
  rw [Value.isWritable_scalar, Value.isWritable_scalar]
  exact h.isWritable

/-- The environment sections are the same but for the passwords. -/
def SectionsOf (v w : Scalar) (a b : Value) : Prop :=
  ∃ env env', a = .map env ∧ b = .map env' ∧ SameExcept "password" (Passwords v w) env env'

/-- The settings are the same but for the passwords in their environment sections. -/
def Differ (v w : Scalar) (settings settings' : Entries) : Prop :=
  SameExcept "env" (SectionsOf v w) settings settings'

lemma Differ.apart (h : Differ v w settings settings') :
    Apart (Passwords v w) settings settings' := by
  refine h.imp ?_
  rintro _ _ ⟨env, env', rfl, rfl, henv⟩
  exact .map henv

/-- The passwords have no references in them. -/
lemma Differ.expand (h : Differ v w settings settings') (hvw : Comparable v w) (vars : Variables)
    (source : String) :
    Outcomes Eq (Differ v w) (Expand.valueEntries vars source settings)
      (Expand.valueEntries vars source settings') := by
  have hpasswords : ∀ a b, Passwords v w a b → Outcomes Eq (Passwords v w)
      (Expand.value vars source a) (Expand.value vars source b) := by
    rintro _ _ ⟨rfl, rfl⟩
    have hplain : Expand.value vars source (.scalar v) = .ok (.scalar v) ∧
        Expand.value vars source (.scalar w) = .ok (.scalar w) := by
      cases hvw with
      | texts hs ht =>
        simp only [Expand.value, Expand.text_of_isPlain hs, Expand.text_of_isPlain ht]
        exact ⟨rfl, rfl⟩
      | others hv hw _ =>
        exact ⟨Expand.value_of_not_text hv vars source, Expand.value_of_not_text hw vars source⟩
    rw [hplain.1, hplain.2]
    exact .ok ⟨rfl, rfl⟩
  refine Expand.valueEntries_sameExcept ?_ h
  rintro _ _ ⟨env, env', rfl, rfl, henv⟩
  rw [Expand.value, Expand.value]
  exact (Expand.valueEntries_sameExcept hpasswords henv).bind fun _ _ h => .ok ⟨_, _, rfl, rfl, h⟩

end Settings

/-! ### Errors -/

/-- Where the password stands in settings. -/
def passwordPlace : List String := ["env", "password"]

/-- What is said of a password that is not a text. -/
def Complaint (v : Scalar) (text : String) : Prop :=
  ValueType.string.matches' (.scalar v) = false ∧
    ∃ shown, v.shown? = some shown ∧ text = s!"{shown} is not of type 'string'"

/-- What is said of passwords that are no texts. -/
def Complaints (v w : Scalar) (text text' : String) : Prop := Complaint v text ∧ Complaint w text'

/-- The errors are the same, except for what violations say of the password. -/
inductive ConfigError.SameExcept (v w : Scalar) : ConfigError → ConfigError → Prop
  | refl (e : ConfigError) : SameExcept v w e e
  | violated (source schema : String) {lines lines' : List String}
      (h : List.Forall₂ (LineExcept passwordPlace (Complaints v w)) lines lines') :
      SameExcept v w (.violated source schema lines) (.violated source schema lines')

/-- Texts do not break the schema. -/
lemma ConfigError.SameExcept.eq {v w : Scalar} {e f : ConfigError} (h : SameExcept v w e f)
    (hv : ValueType.string.matches' (.scalar v) = true) : f = e := by
  cases h with
  | refl => rfl
  | @violated source schema lines lines' hlines =>
    have hsame : List.Forall₂ Eq lines lines' := by
      refine hlines.imp fun line line' hline => ?_
      rcases hline with rfl | ⟨_, _, ⟨⟨hv', -⟩, -⟩, -⟩
      · rfl
      · rw [hv] at hv'
        contradiction
    rw [List.forall₂_eq_eq_eq] at hsame
    rw [hsame]

namespace Settings

variable {v w : Scalar} {settings settings' : Entries} {e : String × Value}

lemma text_kindViolation {u : Scalar} {shown : String} (h : u.shown? = some shown) :
    (Schema.kindViolation .string (.scalar u)).text = .ok s!"{shown} is not of type 'string'" := by
  have hquoted : Text.quoted ValueType.string.name = "'string'" := by decide
  have hshown : (Value.scalar u).shown? = some shown := by rw [Value.shown?, h]
  simp [Schema.kindViolation, Violation.here, hshown, hquoted, String.append_assoc]
  rfl

lemma text_kindViolation_of_none {u : Scalar} (h : u.shown? = none) :
    (Schema.kindViolation .string (.scalar u)).text = .error .unwritable := by
  have hshown : (Value.scalar u).shown? = none := by rw [Value.shown?, h]
  simp [Schema.kindViolation, Violation.here, hshown]

lemma blind_password (hvw : Comparable v w) {a b : Value} (h : Passwords v w a b) :
    Blind [] (Complaints v w) (Bundled.kind "string") a b := by
  obtain ⟨rfl, rfl⟩ := h
  cases hvw with
  | texts => exact Schema.blind_of_kind rfl rfl rfl
  | others hv hw hshown =>
    refine Schema.blind_of_not_kind rfl hv hw ?_
    cases hfirst : v.shown? with
    | none =>
      have hsecond : w.shown? = none := by
        simpa [Scalar.IsWritable, hfirst] using hshown
      exact .inl (by rw [text_kindViolation_of_none hfirst, text_kindViolation_of_none hsecond])
    | some shown =>
      obtain ⟨shown', hsecond⟩ : ∃ shown', w.shown? = some shown' := by
        simpa [Scalar.IsWritable, hfirst, Option.isSome_iff_exists] using hshown
      exact .inr ⟨_, _, text_kindViolation hfirst, text_kindViolation hsecond,
        ⟨hv, shown, hfirst, rfl⟩, ⟨hw, shown', hsecond, rfl⟩⟩

/-- The bundled documents say the same of settings that differ in the password, except of the
password. The one for base files does not mention it. -/
lemma Differ.blind (h : Differ v w settings settings') (hvw : Comparable v w)
    (he : e ∈ Bundled.standard) :
    Blind passwordPlace (Complaints v w) e.2 (.map settings) (.map settings') := by
  have hsection {properties : List (String × Value)} (hproperties : ∀ p ∈ properties,
      p.1 = "password" → p.2 = Bundled.kind "string") {a b : Value} (hab : SectionsOf v w a b) :
      Blind ["password"] (Complaints v w) (Bundled.record properties) a b := by
    obtain ⟨env, env', rfl, rfl, henv⟩ := hab
    refine Schema.blind_of_properties (Schema.ofValue_record properties) henv ?_
    intro p hp hname a b hpasswords
    rw [hproperties p hp hname]
    exact blind_password hvw hpasswords
  simp only [Bundled.standard, List.mem_cons, List.not_mem_nil, or_false] at he
  rcases he with rfl | rfl
  · refine Schema.blind_of_properties (Schema.ofValue_document _ Bundled.baseProperties) h ?_
    intro p hp hname a b hab
    have henv : ∀ p ∈ Bundled.baseProperties, p.1 = "env" →
        p.2 = Bundled.record Bundled.selectionProperties := by
      simp [Bundled.baseProperties]
    rw [henv p hp hname]
    exact hsection (by simp [Bundled.selectionProperties]) hab
  · refine Schema.blind_of_properties (Schema.ofValue_document _ Bundled.overlayProperties) h ?_
    intro p hp hname a b hab
    have henv : ∀ p ∈ Bundled.overlayProperties, p.1 = "env" →
        p.2 = Bundled.record (Bundled.targetProperties ++ Bundled.selectionProperties) := by
      simp [Bundled.overlayProperties]
    rw [henv p hp hname]
    exact hsection (by simp [Bundled.targetProperties, Bundled.selectionProperties]) hab

end Settings

/-- Projects with the same files, except that a settings file gives the environment section another
password. -/
structure Host.Differ (file : Path) (v w : Scalar) (host host' : Host) : Prop where
  disk : Disk.SameExcept (host.disk.resolve file) host.disk host'.disk
  processVariables : host'.processVariables = host.processVariables
  settings : ∃ settings settings', SettingsFile.read host.disk file = .ok settings ∧
    SettingsFile.read host'.disk file = .ok settings' ∧ Settings.Differ v w settings settings'

namespace Loader

/-! ### Loaders in step -/

/-- The loaders have read the same files, except for the password. The file with variables is not
the one that differs, and the schemas are the bundled ones. -/
structure Differ (place : Location) (v w : Scalar) (disk : Disk) (l m : Loader) : Prop where
  directory : m.directory = l.directory
  variablesFile? : m.variablesFile? = l.variablesFile?
  variables? : m.variables? = l.variables?
  registry : m.registry = l.registry
  kept : List.Forall₂ (fun a b => b.1 = a.1 ∧ Settings.Differ v w a.2.settings b.2.settings) l.kept
    m.kept
  bundled : l.registry.IsBundled
  elsewhere : ∀ q ∈ l.variablesFile?, disk.locate q ≠ some place

/-- What it takes for them to be in step. -/
def apart (place : Location) (v w : Scalar) (disk : Disk) : Likeness :=
  ⟨Differ place v w disk, ConfigError.SameExcept v w, True⟩

variable {file : Path} {place : Location} {v w : Scalar} {host host' : Host} {l m : Loader}
  {p : Path} {o : LoadOptions}

/-- Every path to the place of the file is one to a file. -/
lemma isFile_of_locate {disk : Disk} {settings : Entries}
    (hread : SettingsFile.read disk file = .ok settings)
    (hp : disk.locate p = some (disk.resolve file)) : disk.isFile p = true := by
  have hfile := (SettingsFile.isFile_iff.1 (SettingsFile.isFile_of_read hread)).1
  rw [Disk.isFile, Disk.locate_of_isFile hfile] at hfile
  rw [Disk.isFile, hp]
  exact hfile

/-- Every settings file holds the same, except for the password, or fails in the same way. -/
lemma read_differ (h : Host.Differ file v w host host') (p : Path) :
    Outcomes Eq (Settings.Differ v w) (SettingsFile.read host.disk p)
      (SettingsFile.read host'.disk p) := by
  obtain ⟨settings, settings', hread, hread', hsettings⟩ := h.settings
  by_cases hp : host.disk.locate p = some (host.disk.resolve file)
  · cases hformat : SettingsFile.Format.ofSuffix? p.suffix with
    | none =>
      rw [SettingsFile.read, SettingsFile.read, hformat]
      exact .error rfl
    | some f =>
      have hfile : SettingsFile.isFile host.disk p = true :=
        SettingsFile.isFile_iff.2 ⟨isFile_of_locate hread hp, by rw [hformat, Option.isSome_some]⟩
      have hfile' : SettingsFile.isFile host'.disk p = true := by
        rw [SettingsFile.isFile, h.disk.isFile]
        exact hfile
      have hplace : host.disk.resolve p = host.disk.resolve file := (Disk.eq_of_locate hp).symm
      have hplace' : host'.disk.resolve p = host'.disk.resolve file := by
        rw [h.disk.resolve, h.disk.resolve, hplace]
      rw [SettingsFile.read_of_resolve hfile hread hplace,
        SettingsFile.read_of_resolve hfile' hread' hplace']
      exact .ok hsettings
  · rw [SettingsFile.read_sameExcept h.disk hp]
    exact (Outcomes.of_eq (fun _ => rfl) rfl).imp fun a b hab => hab ▸ SameExcept.refl a

/-- Both checks find the same, except for what they say of the password. -/
lemma check_differ (hvw : Comparable v w) (hlm : Differ place v w host.disk l m)
    {e : String × Value} (he : e ∈ Bundled.standard) (source : String)
    {settings settings' : Entries} (hsettings : Settings.Differ v w settings settings') :
    Twins (apart place v w host.disk) Eq (l.check host.disk e.1 source settings)
      (m.check host'.disk e.1 source settings') := by
  obtain ⟨hbundled, hfound⟩ := hlm.bundled.find host.disk e.1
  rw [check, check, hlm.registry, hlm.bundled.find_congr he host.disk host'.disk]
  refine ⟨{ hlm with registry := rfl, bundled := hbundled }, fun _ => rfl, ?_⟩
  dsimp only
  cases hresult : (l.registry.find host.disk e.1).result with
  | error f => exact .error (.refl f)
  | ok c =>
    have hproblems := (hsettings.blind hvw he).problems (hfound e he rfl c hresult)
    show Outcomes _ Eq (SchemaRegistry.check c e.1 source _) (SchemaRegistry.check c e.1 source _)
    rw [SchemaRegistry.check, SchemaRegistry.check]
    generalize c.problems (.map settings) = lines? at hproblems
    generalize c.problems (.map settings') = lines'? at hproblems
    cases hproblems with
    | error hf =>
      subst hf
      exact .error (.refl _)
    | ok hlines =>
      cases hlines with
      | nil => exact .ok rfl
      | cons hline hlines => exact .error (.violated source e.1 (.cons hline hlines))

/-- The settings that were read are the same, except for the password. -/
def ReadingsDiffer (v w : Scalar) (r r' : Reading) : Prop :=
  Settings.Differ v w r.settings r'.settings

/-- What is read is kept, and the loaders stay in step. -/
lemma Differ.keep {r r' : Reading} (h : Differ place v w host.disk l m)
    (hr : ReadingsDiffer v w r r') (kept : Location) :
    Differ place v w host.disk (l.keep kept r) (m.keep kept r') :=
  { h with kept := .cons ⟨rfl, hr⟩ h.kept }

lemma readAt_differ (h : Host.Differ file v w host host') (hvw : Comparable v w)
    (hlm : Differ place v w host.disk l m) {e : String × Value} (he : e ∈ Bundled.standard) :
    Twins (apart place v w host.disk) (ReadingsDiffer v w)
      (l.readAt host.disk p (.checked e.1)) (m.readAt host'.disk p (.checked e.1)) := by
  have hread := read_differ h p
  unfold readAt
  generalize SettingsFile.read host.disk p = x at hread
  generalize SettingsFile.read host'.disk p = y at hread
  cases hread with
  | error hf =>
    subst hf
    exact .of_error hlm (.refl _)
  | @ok settings settings' hsettings =>
    have hcounted : Differ place v w host.disk { l with readings := l.readings + 1 }
        { m with readings := m.readings + 1 } := { hlm with }
    have hlength : settings'.length = settings.length := hsettings.length_eq.symm
    dsimp only
    rw [schemaToCheck_of_standard he, hlength, h.disk.resolve, checkAny, checkAny]
    refine (check_differ hvw hcounted he p.text hsettings).andThen fun n k _ _ hnk _ => ?_
    have hreadings : ReadingsDiffer v w ⟨l.readings, settings⟩ ⟨m.readings, settings'⟩ := hsettings
    exact .of_ok (hnk.keep hreadings (host.disk.resolve p)) hreadings

lemma loadPath_differ (h : Host.Differ file v w host host') (hvw : Comparable v w)
    (hlm : Differ place v w host.disk l m) {e : String × Value} (he : e ∈ Bundled.standard)
    (p : Path) (text : String) :
    Twins (apart place v w host.disk) (ReadingsDiffer v w)
      (l.loadPath host.disk p text (.checked e.1))
      (m.loadPath host'.disk p text (.checked e.1)) := by
  have hlocate : m.locate host'.disk = l.locate host.disk := by
    funext q
    rw [locate, locate, hlm.directory, funext h.disk.isFile]
  refine twins_loadPath hlm ConfigError.SameExcept.refl hlocate hlm.directory (fun q => ?_)
    (fun _ => readAt_differ h hvw hlm he) p text
  rw [remembered?, remembered?, h.disk.resolve]
  split_ifs
  · exact rel_lookup (R := fun _ => ReadingsDiffer v w) hlm.kept _
  · exact .none

lemma paired_apart (h : Host.Differ file v w host host') (hvw : Comparable v w) :
    Paired (apart (host.disk.resolve file) v w host.disk) (Settings.Differ v w) host host' where
  directory hlm := hlm.directory
  gather {l m} hlm := by
    rw [hlm.variablesFile?, hlm.variables?, h.processVariables]
    cases hfile : l.variablesFile? with
    | none => rfl
    | some q =>
      rw [Variables.gather, Variables.gather, h.disk.fileText? (hlm.elsewhere q hfile)]
  isFile := h.disk.isFile
  isDirectory := h.disk.isDirectory
  names := h.disk.names
  errors := .refl
  empty := .nil
  load {l m} p text schema hschema hlm := by
    have he : ∃ e ∈ Bundled.standard, e.1 = schema := by
      simp only [List.mem_cons, List.not_mem_nil, or_false] at hschema
      rcases hschema with rfl | rfl <;> simp [Bundled.standard]
    obtain ⟨e, he, rfl⟩ := he
    exact loadPath_differ h hvw hlm he p text
  expand vars source hsettings := by
    have hends := hsettings.expand hvw vars source
    exact hends.imp_errors fun _ _ hf => hf ▸ .refl _

/-- If projects differ in a password alone, and not in the file with variables, loading ends in the
same way and writes the same to the log. The configurations are told apart by their secret and their
environment section alone, and errors by the lines that spell out a password that is no text. So a
password that is a text does not show at all. -/
theorem resolve_undisclosed (h : Host.Differ file v w host host') (hvw : Comparable v w)
    (hbundled : l.registry.IsBundled)
    (helsewhere : ∀ q ∈ l.variablesFile?, host.disk.locate q ≠ some (host.disk.resolve file))
    (name : String) :
    (l.resolve host' name).log = (l.resolve host name).log ∧
      Outcomes (ConfigError.SameExcept v w) RunConfig.Apart (l.resolve host name).result
        (l.resolve host' name).result ∧
      (ValueType.string.matches' (.scalar v) = true →
        Outcomes Eq RunConfig.Apart (l.resolve host name).result
          (l.resolve host' name).result) := by
  have hsame : Differ (host.disk.resolve file) v w host.disk l l :=
    ⟨rfl, rfl, rfl, rfl, List.forall₂_same.2 fun _ _ => ⟨rfl, .refl _⟩, hbundled, helsewhere⟩
  obtain ⟨-, hlog, hresult⟩ : Twins (apart (host.disk.resolve file) v w host.disk) RunConfig.Apart
      (l.resolve host name) (l.resolve host' name) := by
    have hresolve {base base' : Entries} {overlays overlays' : Overlays}
        (hbase : Settings.Differ v w base base')
        (hoverlays : OverlaysOf (Settings.Differ v w) overlays overlays') :=
      Overlays.resolve_apart (Settings.passwordsAlike hvw) name hbase.apart
        (hoverlays.imp fun _ _ hoverlay => ⟨hoverlay.1, hoverlay.2.apart⟩)
    refine (paired_apart h hvw).resolve name (fun hbase hoverlays => ?_)
      (fun hbase hoverlays _ => (hresolve hbase hoverlays).1) hsame
    exact (hresolve hbase hoverlays).2.imp_errors fun _ _ hf => hf ▸ .refl _
  exact ⟨hlog trivial, hresult, fun hv => hresult.imp_errors fun _ _ hf => (hf.eq hv).symm⟩

end Loader

/-! ### A project with one password -/

namespace Spelled

open Schema

/-- The file with the password. -/
def file : Path := .ofText "config/environments/qa.json"

/-- A project with one overlay, which gives the environment a password. -/
def host (password : String) : Host where
  disk := ⟨[(["config", "environments", "qa.json"],
    .ok ("\x7b\"env\": \x7b\"password\": " ++ password ++ "\x7d\x7d"))], [], []⟩
  processVariables := []

/-- The loader of the project. -/
def loader : Loader := .new (.ofText "config") none none none

/-- What the overlay holds. -/
def settings (p : Scalar) : Entries := [(.str "env", .map [(.str "password", .scalar p)])]

/-- Some passwords, and how they are written. -/
def passwords : List (String × Scalar) :=
  [("12345", .int 12345), ("67890", .int 67890), ("\"hunter2\"", .str "hunter2"),
    ("\"letmein\"", .str "letmein")]

variable {password password' : String} {p p' : Scalar} {s : String}

/-! #### The files -/

lemma basePath?_eq (password : String) : loader.basePath? (host password).disk = none := rfl

lemma isDirectory_eq (password : String) :
    (host password).disk.isDirectory loader.environments = true := rfl

lemma overlayPaths_eq (password : String) :
    loader.overlayPaths (host password).disk = [file] := by
  have hnames : (host password).disk.names loader.environments = ["qa.json"] := by
    show (["qa.json"].eraseDups).mergeSort _ = ["qa.json"]
    rw [List.eraseDups_cons]
    exact List.mergeSort_singleton _
  rw [Loader.overlayPaths, hnames]
  rfl

lemma locate_eq (password : String) : loader.locate (host password).disk file = some file := rfl

lemma gather_eq (password : String) :
    Variables.gather (host password).disk (host password).processVariables loader.variablesFile?
      loader.variables? = .ok ([], []) := rfl

/-- Whether the settings with the password have been read. -/
def isRead (p : Scalar) : Except ConfigError Entries → Bool
  | .ok [(.str "env", .map [(.str "password", .scalar q)])] => q == p
  | _ => false

lemma eq_of_isRead {read : Except ConfigError Entries} (h : isRead p read = true) :
    read = .ok (settings p) := by
  unfold isRead at h
  split at h
  · rw [beq_iff_eq] at h
    rw [h, settings]
  · contradiction

lemma read_eq (h : (password, p) ∈ passwords) :
    SettingsFile.read (host password).disk file = .ok (settings p) := by
  have hread : ∀ e ∈ passwords, isRead e.2 (SettingsFile.read (host e.1).disk file) = true := by
    decide +kernel
  exact eq_of_isRead (hread (password, p) h)

lemma differ (h : (password, p) ∈ passwords) (h' : (password', p') ∈ passwords) :
    Host.Differ file p p' (host password) (host password') where
  disk := ⟨.cons ⟨rfl, .inr rfl⟩ .nil, rfl, rfl⟩
  processVariables := rfl
  settings := by
    refine ⟨settings p, settings p', read_eq h, read_eq h', ?_⟩
    refine .cons ⟨rfl, .inr ⟨rfl, _, _, rfl, rfl, ?_⟩⟩ .nil
    exact .cons ⟨rfl, .inr ⟨rfl, rfl, rfl⟩⟩ .nil

/-! #### The schema of overlays -/

/-- Texts are valid. -/
def text : Schema := .rules [.type [.string]]

/-- Truth values are valid. -/
def truth : Schema := .rules [.type [.boolean]]

/-- The schema of environment sections. -/
def environment : Schema := .rules [.type [.object], .properties [("baseUrl", text),
  ("apiUrl", text), ("environment", text), ("username", text), ("password", text),
  ("grepTags", text), ("grep", text), ("grepFilterSpecs", truth), ("grepOmitFiltered", truth)]]

/-- The schema of overlays. -/
def overlay : Schema :=
  .rules [.type [.object], .properties [("baseUrl", text), ("env", environment)]]

lemma ofValue_overlay : ofValue Bundled.overlay = .ok overlay := by
  have htext : ofValue (Bundled.kind "string") = .ok text := ofValue_kind rfl
  have htruth : ofValue (Bundled.kind "boolean") = .ok truth := ofValue_kind rfl
  have hsection : ofValue (Bundled.record
      (Bundled.targetProperties ++ Bundled.selectionProperties)) = .ok environment := by
    rw [ofValue_record]
    simp only [named, Bundled.targetProperties, Bundled.selectionProperties, List.map_cons,
      List.map_nil, List.cons_append, List.nil_append, schemaEntries, htext, htruth]
    rfl
  rw [Bundled.overlay, ofValue_document]
  simp only [named, Bundled.overlayProperties, List.map_cons, List.map_nil, schemaEntries, htext,
    hsection]
  rfl

/-- What is wrong with the settings is what is wrong with the password. -/
lemma violations_overlay (p : Scalar) :
    overlay.violations (.map (settings p)) = (text.violations (.scalar p)).map fun x =>
      (x.under (.str "password")).under (.str "env") := by
  simp [overlay, environment, violations, rulesViolations, ruleViolations, ValueType.matches',
    propertiesViolations, settings, Entries.get?, Scalar.sameKey, Scalar.keyForm]

lemma violations_text (s : String) : overlay.violations (.map (settings (.str s))) = [] := by
  simp [violations_overlay, text, violations, rulesViolations, ruleViolations, ValueType.matches']

/-- What is said of a password that is an integer. -/
def complaint (shown : String) : String := s!"env/password: {shown} is not of type 'string'"

lemma problems_int {i : Int} {shown : String} (h : Scalar.shown? (.int i) = some shown) :
    overlay.problems (.map (settings (.int i))) = .ok [complaint shown] := by
  have hone : text.violations (.int i) = [kindViolation .string (.int i)] := by
    simp [text, violations, rulesViolations, ruleViolations, ValueType.matches', kindViolation]
  have hline (s : String) : line ["env", "password"] s = "env/password: " ++ s := by
    simp only [line]
    rfl
  have hsteps : (((kindViolation .string (.int i)).under (.str "password")).under
      (.str "env")).steps = .ok ["env", "password"] := steps_placeOf rfl
  rw [problems, violations_overlay, hone]
  simp only [List.map_cons, List.map_nil, List.mapM_cons, List.mapM_nil, hsteps]
  simp only [Violation.under, Settings.text_kindViolation h]
  show Except.ok ((List.mergeSort [(["env", "password"], _)] _).map _) = _
  rw [List.mergeSort_singleton, List.map_singleton, hline, complaint]
  simp only [← String.append_assoc]
  rfl

/-! #### What comes of it -/

/-- The configuration with a password that is a text. -/
def config (s : String) : RunConfig :=
  ⟨"qa", "", "", "qa", ⟨"", s⟩, freezeEntries (settings (.str s))⟩

lemma resolve_text (h : (password, .str s) ∈ passwords) (hs : Expand.IsPlain s) (hs' : s ≠ "") :
    (loader.resolve (host password) "qa").result = .ok (config s) := by
  have hconforms : Conforms Bundled.overlay (.map (settings (.str s))) := by
    refine ⟨overlay, ofValue_overlay, ?_⟩
    rw [accepts, violations_text, List.isEmpty_nil]
  have hexpand : Expand.valueEntries [] file.text (settings (.str s)) =
      .ok (settings (.str s)) := by
    simp only [settings, Expand.valueEntries, Expand.value, Expand.text_of_isPlain hs]
    rfl
  have hstem : file.stem = "qa" := by decide
  have hoverlays := Loader.loadOverlays_of_conforms
    (SchemaRegistry.isBundled_new : loader.registry.IsBundled) (rfl : loader.kept = [])
    (isDirectory_eq password) (gather_eq password) (overlayPaths_eq password) (locate_eq password)
    (read_eq h) hconforms hexpand
  have hsecret : RunConfig.textOr (settings (.str s)) "password" "" = .ok s := by
    have htrue : (Value.str s).truthy = true := by simpa [Value.truthy, Scalar.truthy] using hs'
    have hfound : (RunConfig.envEntries (settings (.str s))).get? (.str "password") =
        some (.str s) := rfl
    rw [RunConfig.textOr, hfound]
    simp only [htrue, if_true]
    rfl
  have hbuild : RunConfig.build "qa" (settings (.str s)) = .ok (config s) := by
    rw [RunConfig.build, hsecret]
    rfl
  have hname : Text.strip "qa" = "qa" := by decide
  have hresolve : Overlays.resolve "qa" [] [("qa", settings (.str s))] = .ok (config s) := by
    simp only [Overlays.resolve, hname, List.lookup_cons, BEq.rfl]
    show (RunConfig.build "qa" (settings (.str s))).mapError _ = _
    rw [hbuild]
    rfl
  rw [hstem] at hoverlays
  simp only [Loader.resolve, Loader.loadBase, basePath?_eq, Loading.andThen, hoverlays, hresolve]

lemma resolve_int {i : Int} {shown : String} (h : (password, .int i) ∈ passwords)
    (hshown : Scalar.shown? (.int i) = some shown) :
    (loader.resolve (host password) "qa").result =
      .error (.violated "config/environments/qa.json" "overlay_schema" [complaint shown]) := by
  have hbundled : loader.registry.IsBundled := SchemaRegistry.isBundled_new
  have hstandard : (Bundled.overlayName, Bundled.overlay) ∈ Bundled.standard := by
    simp [Bundled.standard]
  obtain ⟨c, hc⟩ := hbundled.exists_found (host password).disk hstandard ⟨_, ofValue_overlay⟩
  have hschema : c.schema = overlay := by
    have hdocument := (hbundled.find (host password).disk _).2 _ hstandard rfl c hc
    exact (Except.ok.inj (ofValue_overlay.symm.trans hdocument)).symm
  have hproblems : c.problems (.map (settings (.int i))) = .ok [complaint shown] := by
    rw [CompiledSchema.problems, hschema, problems_int hshown]
  have hkept : loader.remembered? (host password).disk file (.checked Bundled.overlayName) = none :=
    rfl
  have hchecked : (LoadOptions.checked Bundled.overlayName).schemaToCheck =
      some Bundled.overlayName := by decide
  have hload : (loader.loadPath (host password).disk file file.text
      (.checked Bundled.overlayName)).result =
        .error (.violated "config/environments/qa.json" "overlay_schema" [complaint shown]) := by
    simp only [Loader.loadPath, locate_eq, Loader.loadAt, hkept, Loader.readAt, read_eq h, hchecked,
      Loader.checkAny, Loader.check, hc, Loading.andThen, Except.bind, SchemaRegistry.check,
      hproblems]
    rfl
  simp only [Loader.resolve, Loader.loadBase, basePath?_eq, Loader.loadOverlays, isDirectory_eq,
    gather_eq, overlayPaths_eq, Loader.loadOverlaysAt, Loader.loadOverlay, hload, Loading.andThen]
  rfl

/-- Two passwords that are texts do not show. -/
theorem resolve_undisclosed_text :
    (loader.resolve (host "\"letmein\"") "qa").log =
        (loader.resolve (host "\"hunter2\"") "qa").log ∧
      ∃ c c', (loader.resolve (host "\"hunter2\"") "qa").result = .ok c ∧
        (loader.resolve (host "\"letmein\"") "qa").result = .ok c' ∧ c.Apart c' ∧
        c.credentials.secret = "hunter2" ∧ c'.credentials.secret = "letmein" := by
  have hhunter : ("\"hunter2\"", .str "hunter2") ∈ passwords := by simp [passwords]
  have hletmein : ("\"letmein\"", .str "letmein") ∈ passwords := by simp [passwords]
  obtain ⟨hplain, hplain'⟩ : Expand.IsPlain "hunter2" ∧ Expand.IsPlain "letmein" := by
    decide +kernel
  obtain ⟨hlog, -, hsame⟩ := Loader.resolve_undisclosed (l := loader) (differ hhunter hletmein)
    (.texts hplain hplain') SchemaRegistry.isBundled_new (fun _ hq => nomatch hq) "qa"
  have hresults := hsame rfl
  have hfirst := resolve_text hhunter hplain (by decide)
  have hsecond := resolve_text hletmein hplain' (by decide)
  rw [hfirst, hsecond] at hresults
  cases hresults with
  | ok hapart => exact ⟨hlog, _, _, hfirst, hsecond, hapart, rfl, rfl⟩

/-- Two passwords that are integers do. -/
theorem resolve_discloses :
    Host.Differ file (.int 12345) (.int 67890) (host "12345") (host "67890") ∧
      (loader.resolve (host "12345") "qa").result =
        .error (.violated "config/environments/qa.json" "overlay_schema"
          ["env/password: 12345 is not of type 'string'"]) ∧
      (loader.resolve (host "67890") "qa").result =
        .error (.violated "config/environments/qa.json" "overlay_schema"
          ["env/password: 67890 is not of type 'string'"]) := by
  have hfirst : ("12345", .int 12345) ∈ passwords := by simp [passwords]
  have hsecond : ("67890", .int 67890) ∈ passwords := by simp [passwords]
  have hshown : Scalar.shown? (.int 12345) = some "12345" := by decide +kernel
  have hshown' : Scalar.shown? (.int 67890) = some "67890" := by decide +kernel
  exact ⟨differ hfirst hsecond, resolve_int hfirst hshown, resolve_int hsecond hshown'⟩

end Spelled

end TaggedSuite
