import TaggedSuite.Proofs.CommandLine.Handover
import TaggedSuite.Proofs.Config.Enumeration
import TaggedSuite.Proofs.Config.Selecting
import TaggedSuite.Proofs.Schema.Faults
import TaggedSuite.Run.Basic

/-!
# Setting up a run

Files that can be read, in the sense that each one holds settings or is refused by its reader, are
enough for a run to be set up or for a mistake to be reported, as long as the values in them have a
text. Between the files and the selection lie the checks with the bundled schemas. What these leave
open does no other harm: neither the references, nor merging, nor the fields that are read off, nor
the switches ask for more. An integer with too many digits is let pass, and nothing reports then
that there is no text for it.
-/
namespace TaggedSuite

open Loading (Ends)
open Settings (AreSound Selects)

/-- Whether the error is one of a configuration. -/
abbrev ConfigError.Reported (f : ConfigError) : Prop := f.isReported = true

/-- Whether the error says that an integer has too many digits. -/
def ConfigError.LacksText (f : ConfigError) : Prop :=
  f = .unchecked .unwritable ∨ f = .unsettled .unwritable

/-- What keeps a text from being parsed is reported, unless a part of it has no value. -/
lemma SettingsFile.parse_eq_error {format : SettingsFile.Format} {path text : String}
    {f : ConfigError} (h : format.parse path text = .error f) (hvalue : ∀ g, f ≠ .unconvertible g) :
    f.Reported := by
  cases format with
  | yaml =>
    obtain ⟨fault, -, rfl⟩ := mapError_eq_error.1 h
    cases fault with
    | malformed => rfl
    | conversion g => exact absurd rfl (hvalue g)
  | json =>
    obtain ⟨⟨fault, rest⟩, -, rfl⟩ := mapError_eq_error.1 h
    cases fault with
    | numeral n => exact absurd rfl (hvalue (.numeral n))
    | _ => rfl

/-- What keeps a file from being read is reported, unless a part of the file has no value. -/
lemma SettingsFile.read_eq_error {disk : Disk} {p : Path} {f : ConfigError}
    (h : SettingsFile.read disk p = .error f) (hvalue : ∀ g, f ≠ .unconvertible g) :
    f.Reported := by
  rw [SettingsFile.read] at h
  cases hformat : Format.ofSuffix? p.suffix with
  | none =>
    rw [hformat] at h
    cases h
    rfl
  | some format =>
    rw [hformat] at h
    cases htext : disk.read p with
    | none =>
      rw [htext] at h
      cases h
      rfl
    | some text =>
      rw [htext] at h
      rcases bind_eq_error.1 h with h | ⟨v, -, h⟩
      · exact parse_eq_error h hvalue
      · unfold settingsOf at h
        split at h <;> cases h
        rfl

namespace SchemaRegistry

variable {name source : String} {f : ConfigError}

/-- A check with telling violations fails by these, or because the value has no text. -/
lemma check_eq_error {c : CompiledSchema} {v : Value} (hc : c.schema.Tells)
    (h : check c name source v = .error f) :
    f.Reported ∨ f = .unchecked .unwritable ∧ ¬v.IsWritable := by
  rw [check] at h
  split at h
  · cases h
  · cases h
    exact .inl rfl
  · next hproblems =>
    obtain ⟨rfl, hv⟩ := CompiledSchema.problems_eq_error (hc v) hproblems
    exact .inr ⟨(Except.error.inj h).symm, hv⟩

end SchemaRegistry

namespace Loader

variable {l m : Loader} {host : Host} {disk : Disk} {p : Path} {e : String × Value}
  {settings : Entries} {f : ConfigError}

/-- Every file that is read for a configuration holds settings or is refused by its reader, and the
file with variables is a text if it is there. -/
structure Readable (host : Host) (l : Loader) : Prop where
  files : ∀ p ∈ l.listed host.disk, ∀ g,
    SettingsFile.read host.disk (l.source host.disk p) ≠ .error (.unconvertible g)
  assignments : ∀ file, l.variablesFile? = some file →
    ∀ g, host.disk.fileText? file ≠ some (.error g)

/-- The values in every file that is read for a configuration have a text. -/
def IsWritten (host : Host) (l : Loader) : Prop :=
  ∀ p ∈ l.listed host.disk, ∀ settings,
    SettingsFile.read host.disk (l.source host.disk p) = .ok settings →
      Value.IsWritable (.map settings)

/-- The error is reported, unless a file holds a value without a text. -/
def Fails (host : Host) (l : Loader) (f : ConfigError) : Prop :=
  f.Reported ∨ f.LacksText ∧ ¬IsWritten host l

/-- Settings that select tests by texts. They have a text if all files have. -/
structure Settles (host : Host) (l : Loader) (settings : Entries) : Prop where
  sound : AreSound settings
  written : IsWritten host l → Value.IsWritable (.map settings)

/-- The second loader is the first one with other readings. It has the bundled schemas, and what is
kept is sound. -/
structure Keeps (host : Host) (l m : Loader) : Prop where
  directory : m.directory = l.directory
  variablesFile? : m.variablesFile? = l.variablesFile?
  variables? : m.variables? = l.variables?
  registry : m.registry.IsBundled
  kept : ∀ e ∈ m.kept, Settles host l e.2.settings

lemma settles_nil : Settles host l [] :=
  ⟨Settings.areSound_nil, fun _ => Value.isWritable_map.2 fun _ he => (List.not_mem_nil he).elim⟩

/-! ### One file -/

/-- Settings that pass the check with a bundled document select tests by texts. -/
lemma checkAny_keeps (h : Keeps host l m) (he : e ∈ Bundled.standard) (text : String)
    (hwritten : IsWritten host l → Value.IsWritable (.map settings)) :
    Ends (Keeps host l) (Fails host l) (fun _ => Selects settings)
      (m.checkAny disk (some e.1) text settings) := by
  obtain ⟨hregistry, hfound⟩ := h.registry.find disk e.1
  rw [checkAny, check]
  refine .ofResult ⟨h.directory, h.variablesFile?, h.variables?, hregistry, h.kept⟩ ?_ ?_
  · intro f hf
    obtain ⟨c, hc⟩ := h.registry.exists_found disk he (Bundled.isSchema_of_standard he)
    rw [hc] at hf
    have hc : c.schema.Tells := Bundled.telling_of_standard he c.schema (hfound e he rfl c hc)
    rcases SchemaRegistry.check_eq_error hc hf with hreported | ⟨hfault, hlong⟩
    · exact .inl hreported
    · exact .inr ⟨.inl hfault, mt hwritten hlong⟩
  · rintro ⟨⟩ hpassed
    exact Settings.selects_of_standard he ((h.registry.check_eq_ok he).1 hpassed)

/-- What a load with a bundled document gives is sound, whether it is read or was kept. -/
lemma loadAt_keeps (h : Keeps host l m) (he : e ∈ Bundled.standard)
    (hread : ∀ g, SettingsFile.read disk p ≠ .error (.unconvertible g))
    (hwritten : ∀ settings, SettingsFile.read disk p = .ok settings → IsWritten host l →
      Value.IsWritable (.map settings)) :
    Ends (Keeps host l) (Fails host l) (fun r => Settles host l r.settings)
      (m.loadAt disk p (.checked e.1)) := by
  rw [loadAt]
  cases hkept : m.remembered? disk p (.checked e.1) with
  | some r =>
    rw [remembered?] at hkept
    split_ifs at hkept
    obtain ⟨before, after, hsplit, -⟩ := List.lookup_eq_some_iff.1 hkept
    exact .ofOk h (h.kept (disk.resolve p, r) (by simp [hsplit]))
  | none =>
    have hsettles : ∀ settings, SettingsFile.read disk p = .ok settings → Selects settings →
        Settles host l settings :=
      fun settings hheld hselects =>
        ⟨⟨SettingsFile.isKeyed_of_read hheld, hselects⟩, hwritten settings hheld⟩
    have hends : Ends (Keeps host l) (Fails host l)
        (fun r => SettingsFile.read disk p = .ok r.settings ∧ Selects r.settings)
        (m.readAt disk p (.checked e.1)) := by
      apply readAt_ends Selects h
      · intro f hf
        exact .inl (SettingsFile.read_eq_error hf fun g hg => hread g (hg ▸ hf))
      · intro settings hheld
        have hcounted : Keeps host l { m with readings := m.readings + 1 } :=
          ⟨h.directory, h.variablesFile?, h.variables?, h.registry, h.kept⟩
        rw [schemaToCheck_of_standard he]
        exact checkAny_keeps hcounted he p.text (hwritten settings hheld)
      · intro n settings hn hheld hselects
        refine ⟨hn.directory, hn.variablesFile?, hn.variables?, hn.registry, fun d hd => ?_⟩
        rcases List.mem_cons.1 hd with rfl | hd
        · exact hsettles settings hheld hselects
        · exact hn.kept d hd
    exact hends.imp fun r hr => hsettles r.settings hr.1 hr.2

lemma isFile_of_mem_listed (h : p ∈ l.listed disk) : SettingsFile.isFile disk p = true := by
  rcases List.mem_append.1 h with h | h
  · exact isFile_of_basePath? (Option.mem_toList.1 h)
  · exact isFile_of_mem_overlayPaths h

lemma loadPath_keeps (h : Keeps host l m) (hreadable : l.Readable host)
    (he : e ∈ Bundled.standard) (hp : p ∈ l.listed host.disk) :
    Ends (Keeps host l) (Fails host l) (fun r => Settles host l r.settings)
      (m.loadPath host.disk p p.text (.checked e.1)) := by
  have hlocate : m.locate host.disk p = some (l.source host.disk p) := by
    rw [locate_of_isFile (SettingsFile.isFile_iff.1 (isFile_of_mem_listed hp)).1,
      source_congr h.directory]
  rw [loadPath, hlocate]
  exact loadAt_keeps h he (hreadable.files p hp) fun settings hheld hwritten =>
    hwritten p hp settings hheld

/-! ### The files of a configuration -/

lemma loadBase_keeps (h : Keeps host l m) (hreadable : l.Readable host) :
    Ends (Keeps host l) (Fails host l) (Settles host l) (m.loadBase host.disk) := by
  rw [loadBase, basePath?_congr h.directory]
  cases hbase : l.basePath? host.disk with
  | none => exact .ofOk h settles_nil
  | some p =>
    have hlisted : p ∈ l.listed host.disk :=
      List.mem_append_left _ (Option.mem_toList.2 hbase)
    have hload : Ends (Keeps host l) (Fails host l) (fun r => Settles host l r.settings)
        (m.loadPath host.disk p p.text (.checked Bundled.baseName)) :=
      loadPath_keeps (e := (Bundled.baseName, Bundled.base)) h hreadable List.mem_cons_self hlisted
    exact .map hload

lemma loadOverlay_keeps {vars : Variables} (h : Keeps host l m) (hreadable : l.Readable host)
    (hp : p ∈ l.overlayPaths host.disk) :
    Ends (Keeps host l) (Fails host l) (Settles host l) (m.loadOverlay host.disk vars p) := by
  have hload : Ends (Keeps host l) (Fails host l) (fun r => Settles host l r.settings)
      (m.loadPath host.disk p p.text (.checked Bundled.overlayName)) :=
    loadPath_keeps (e := (Bundled.overlayName, Bundled.overlay)) h hreadable
      (List.mem_cons_of_mem _ List.mem_cons_self) (List.mem_append_right _ hp)
  refine hload.andThen fun n r hn hsettles => .ofResult hn ?_ ?_
  · intro f hf
    obtain ⟨name, rfl⟩ := Expand.valueEntries_eq_error hf
    exact .inl rfl
  · intro overlay hoverlay
    exact ⟨Expand.areSound hoverlay hsettles.sound, fun hwritten =>
      (Expand.keeps_entries hoverlay hsettles.sound.keyed).2 (hsettles.written hwritten)⟩

lemma gather_eq_error {given? : Option Variables} {process : Variables} {file? : Option Path}
    {g : Text.DecodingFault} (h : Variables.gather disk process file? given? = .error g) :
    ∃ file, file? = some file ∧ disk.fileText? file = some (.error g) := by
  unfold Variables.gather at h
  cases file? with
  | none => cases h
  | some file =>
    refine ⟨file, rfl, ?_⟩
    cases htext : disk.fileText? file with
    | none => simp [htext] at h
    | some text =>
      cases text with
      | error g' =>
        simp only [htext, bind, Except.bind, Except.error.injEq] at h
        rw [h]
      | ok text => simp [htext, bind, Except.bind, pure, Except.pure] at h

lemma loadOverlays_keeps (h : Keeps host l m) (hreadable : l.Readable host) :
    Ends (Keeps host l) (Fails host l) (fun overlays => ∀ e ∈ overlays, Settles host l e.2)
      (m.loadOverlays host) := by
  rw [loadOverlays, h.variablesFile?, h.variables?, overlayPaths_congr h.directory]
  split_ifs with hthere
  · cases hgather : Variables.gather host.disk host.processVariables l.variablesFile? l.variables?
      with
    | error g =>
      obtain ⟨file, hfile, htext⟩ := gather_eq_error hgather
      exact absurd htext (hreadable.assignments file hfile g)
    | ok gathered =>
      have hstep : ∀ n p, Keeps host l n → p ∈ l.overlayPaths host.disk →
          Ends (Keeps host l) (Fails host l) (Settles host l)
            (n.loadOverlay host.disk gathered.1 p) :=
        fun n p hn hp => loadOverlay_keeps hn hreadable hp
      have hall := loadOverlaysAt_ends hstep (fun _ _ _ => .inl rfl) [] h List.nodup_nil
      refine Ends.relog (hall.andThen fun n overlays hn hgood => .ofOk hn ?_)
      obtain ⟨-, more, rfl, hmore⟩ := hgood
      intro e he
      obtain ⟨p, -, -, hsettles⟩ := hmore.exists_of_mem he
      exact hsettles
  · exact .ofOk h fun _ he => (List.not_mem_nil he).elim

/-- Settings that are put together settle a configuration, unless a value has no text. -/
lemma resolve_settles {name : String} {base : Entries} {overlays : Overlays}
    (hbase : Settles host l base) (hoverlays : ∀ e ∈ overlays, Settles host l e.2) :
    (∀ f, Overlays.resolve name base overlays = .error f → Fails host l f) ∧
      ∀ c, Overlays.resolve name base overlays = .ok c →
        ∃ name settings, RunConfig.build name settings = .ok c ∧ Selects settings := by
  rw [Overlays.resolve]
  cases hfound : overlays.lookup (Text.strip name) with
  | none =>
    constructor <;> rintro _ ⟨⟩
    exact .inl rfl
  | some overlay =>
    obtain ⟨before, after, hsplit, -⟩ := List.lookup_eq_some_iff.1 hfound
    have hoverlay : Settles host l overlay :=
      hoverlays (Text.strip name, overlay) (by simp [hsplit])
    have hlayer := hbase.sound.layer hoverlay.sound
    simp only [Settings.merge_eq_ok hbase.sound.keyed.haveCopies hoverlay.sound.keyed.haveCopies]
    refine ⟨fun f hf => ?_, fun c hc => ⟨_, _, mapError_eq_ok.1 hc, hlayer.selects⟩⟩
    obtain ⟨g, hg, rfl⟩ := mapError_eq_error.1 hf
    obtain rfl := RunConfig.build_eq_error hg
    refine .inr ⟨.inr rfl, fun hwritten => ?_⟩
    obtain ⟨c, hc⟩ := RunConfig.exists_build hlayer.selects
      (Settings.isWritable_layer hbase.sound hoverlay.sound (hbase.written hwritten)
        (hoverlay.written hwritten)) (Text.strip name)
    cases hc.symm.trans hg

/-- A configuration that is resolved comes of settings that select tests by texts. -/
lemma resolve_keeps (h : Keeps host l m) (hreadable : l.Readable host) (name : String) :
    Ends (Keeps host l) (Fails host l)
      (fun c => ∃ name settings, RunConfig.build name settings = .ok c ∧ Selects settings)
      (m.resolve host name) := by
  rw [resolve]
  refine Ends.relog ((loadBase_keeps h hreadable).andThen fun n base hn hbase => ?_)
  refine (loadOverlays_keeps hn hreadable).andThen fun k overlays hk hoverlays => ?_
  obtain ⟨herror, hok⟩ := resolve_settles hbase hoverlays
  exact .ofResult hk herror hok

/-- A new loader has the bundled schemas and has kept nothing. -/
lemma keeps_new (host : Host) (directory : Path) (file? : Option Path)
    (given? : Option Variables) :
    Keeps host (.new directory none file? given?) (.new directory none file? given?) :=
  ⟨rfl, rfl, rfl, SchemaRegistry.isBundled_new, fun _ he => nomatch he⟩

end Loader

/-! ### Runs -/

/-- Whether the error says that an integer has too many digits. -/
def SetupError.LacksText (e : SetupError) : Prop := ∃ f, e = .config f ∧ f.LacksText

lemma SetupError.LacksText.not_reported {e : SetupError} (h : e.LacksText) :
    e.isReported = false := by
  obtain ⟨_, rfl, rfl | rfl⟩ := h <;> rfl

namespace Program

variable {l : Loader} {host : Host} {e : SetupError}

/-- What keeps a configuration or a selection from being had is reported, unless a file holds a
value without a text. -/
lemma prepare_eq_error {environment : String} {choice : SelectionChoice} (hl : l.Keeps host l)
    (hreadable : l.Readable host)
    (h : (prepare l host environment choice.select).result = .error e) :
    e.isReported = true ∨ e.LacksText ∧ ¬l.IsWritten host := by
  have hresolve := Loader.resolve_keeps hl hreadable environment
  simp only [prepare] at h
  cases hconfig : (l.resolve host environment).result with
  | error f =>
    rw [hconfig] at h
    cases h
    exact (hresolve.fine f hconfig).imp_right fun hlong => ⟨⟨f, rfl, hlong.1⟩, hlong.2⟩
  | ok c =>
    obtain ⟨name, settings, hbuild, hselects⟩ := hresolve.good c hconfig
    rw [hconfig] at h
    cases hselect : choice.select c with
    | error f =>
      obtain ⟨raw, fault, rfl⟩ := SelectionChoice.select_eq_error hselects hbuild choice hselect
      simp only [hselect, Except.error.injEq] at h
      subst h
      exact .inl rfl
    | ok s => simp [hselect] at h

lemma preflight_eq_error {c : RunCommand} (h : (preflight host c).result = .error e) :
    (prepare (loader c.settings) host c.environment c.choice.select).result = .error e := by
  simp only [preflight, c.selection_eq_select] at h
  split at h
  · next hprepare =>
    cases h
    exact hprepare
  · cases h

end Program

namespace TestRun

variable {host : Host} {settings : RunnerSettings} {o : RunnerOptions} {e : SetupError}

lemma setUp_result : (setUp host settings o).result =
    (Program.prepare (loader settings o) host (environmentName host settings o)
      o.choice.select).result.map fun found => ⟨found.1, found.2, .none, []⟩ := by
  delta setUp
  dsimp only
  split
  · next hprepare =>
    rw [hprepare]
    rfl
  · next hprepare =>
    rw [hprepare]
    rfl

lemma setUp_eq_error (h : (setUp host settings o).result = .error e) :
    (Program.prepare (loader settings o) host (environmentName host settings o)
      o.choice.select).result = .error e := by
  rw [setUp_result] at h
  exact map_eq_error.1 h

/-- Readable files are enough for the start of a run. The program finds a selection before it starts
the test runner, or it reports what is wrong. The test runner stores a run, or it is told what is
wrong by a reported error and stores nothing. The exception is a value without a text in one of the
files: an error can say so that nothing reports. -/
theorem starts_or_reports (host : Host) :
    (∀ c : RunCommand, (Program.loader c.settings).Readable host →
      (∃ s, (Program.preflight host c).result = .ok s) ∨
        ∃ e, (Program.preflight host c).result = .error e ∧
          (e.isReported = true ∨ e.LacksText ∧ ¬(Program.loader c.settings).IsWritten host)) ∧
    ∀ (settings : RunnerSettings) (o : RunnerOptions), (loader settings o).Readable host →
      (∃ r, (setUp host settings o).result = .ok r ∧
        (configure host settings o false).result = .ok () ∧
        (configure host settings o false).stored? = some r) ∨
      ∃ e, (setUp host settings o).result = .error e ∧
        (configure host settings o false).stored? = none ∧
        (e.isReported = true ∧
            (configure host settings o false).result = .error (.usage e.message) ∨
          (e.LacksText ∧ ¬(loader settings o).IsWritten host) ∧
            (configure host settings o false).result = .error (.escaped e)) := by
  constructor
  · intro c hreadable
    cases hresult : (Program.preflight host c).result with
    | ok s => exact .inl ⟨s, rfl⟩
    | error e =>
      have hprepare := Program.preflight_eq_error hresult
      exact .inr ⟨e, rfl, Program.prepare_eq_error (Loader.keeps_new ..) hreadable hprepare⟩
  · intro settings o hreadable
    cases hresult : (setUp host settings o).result with
    | ok r =>
      refine .inl ⟨r, rfl, ?_, ?_⟩ <;>
        simp only [configure, Bool.false_eq_true, if_false, hresult]
    | error e =>
      have hstored : (configure host settings o false).stored? = none := by
        simp only [configure, Bool.false_eq_true, if_false, hresult]
      have hended : (configure host settings o false).result =
          .error (if e.isReported then .usage e.message else .escaped e) := by
        simp only [configure, Bool.false_eq_true, if_false, hresult]
      refine .inr ⟨e, rfl, hstored, ?_⟩
      rcases Program.prepare_eq_error (Loader.keeps_new ..) hreadable (setUp_eq_error hresult) with
        hreported | hlong
      · exact .inl ⟨hreported, by rw [hended, if_pos hreported]⟩
      · exact .inr ⟨hlong, by rw [hended, hlong.1.not_reported]; rfl⟩

end TestRun

/-! ### A project with one environment -/

namespace OneEnvironment

/-- A project with one environment, which sets nothing. -/
def host : Host where
  disk := ⟨[(["config", "environments", "qa.json"], .ok "\x7b\x7d")], [], []⟩
  processVariables := []

/-- A run of the tests with a tag. -/
def command : RunCommand :=
  ⟨⟨"/config", "/.env", false⟩, "qa", ⟨some "@smoke", none, none, none⟩, []⟩

/-- The settings of the test runner. They name no environment. -/
def settings : RunnerSettings := ⟨.ofText "/", "", "config", []⟩

/-- The configuration of the environment. -/
def config : RunConfig := ⟨"qa", "", "", "qa", ⟨"", ""⟩, []⟩

/-- The loader of either. -/
def loader : Loader := .new (.ofText "/config") none (some (.ofText "/.env")) none

lemma loader_settings : TestRun.loader settings .none = loader := by
  have hdirectory : settings.root.append (.ofText (TestRun.firstGiven [none] "config")) =
      .ofText "/config" := by decide
  have hfile : settings.root.append (.ofText (TestRun.firstGiven [none] ".env")) =
      .ofText "/.env" := by decide
  exact congrArg₂ (fun directory file => Loader.new directory none (some file) none)
    hdirectory hfile

lemma overlayPaths_eq : loader.overlayPaths host.disk = [.ofText "/config/environments/qa.json"] :=
  by decide +kernel

lemma basePath?_eq : loader.basePath? host.disk = none := by decide

/-- Whether settings were read in which there is nothing. -/
def isEmpty : Except ConfigError Entries → Bool
  | .ok [] => true
  | _ => false

lemma eq_of_isEmpty {read : Except ConfigError Entries} (h : isEmpty read = true) :
    read = .ok [] := by
  unfold isEmpty at h
  split at h
  · rfl
  · contradiction

lemma read_eq : SettingsFile.read host.disk (.ofText "/config/environments/qa.json") = .ok [] :=
  eq_of_isEmpty (by decide +kernel)

lemma read_of_listed {p : Path} (hp : p ∈ loader.listed host.disk) :
    SettingsFile.read host.disk (loader.source host.disk p) = .ok [] := by
  have hsource : loader.source host.disk (.ofText "/config/environments/qa.json") =
      .ofText "/config/environments/qa.json" := by decide
  rw [Loader.listed, basePath?_eq, overlayPaths_eq] at hp
  obtain rfl := List.mem_singleton.1 hp
  rw [hsource, read_eq]

lemma isReadable : loader.Readable host := by
  constructor
  · intro p hp g
    rw [read_of_listed hp]
    exact fun h => nomatch h
  · rintro file ⟨⟩ g
    have hnone : host.disk.fileText? (.ofText "/.env") = none := by decide
    rw [hnone]
    exact fun h => nomatch h

lemma isWritten : loader.IsWritten host := by
  intro p hp settings h
  rw [read_of_listed hp] at h
  cases h
  exact Value.isWritable_map.2 fun _ he => (List.not_mem_nil he).elim

lemma resolve_eq (name : String) :
    (loader.resolve host name).result = Overlays.resolve name [] [("qa", [])] := by
  have hlocate : loader.locate host.disk (.ofText "/config/environments/qa.json") =
      some (.ofText "/config/environments/qa.json") := by decide
  have hconforms : Schema.Conforms Bundled.overlay (.map []) :=
    Bundled.conforms_of_free Bundled.isSchema_overlay fun _ _ => rfl
  have hoverlays : (loader.loadOverlays host).result = .ok [("qa", [])] :=
    Loader.loadOverlays_of_conforms SchemaRegistry.isBundled_new rfl (by decide) rfl
      overlayPaths_eq hlocate read_eq hconforms rfl
  simp only [Loader.resolve, Loader.loadBase, basePath?_eq, Loading.andThen, hoverlays]

/-- The program finds the tests of the environment. The test runner does not start, since it is told
of none and there is no local one. -/
theorem starts_or_reports_oneEnvironment :
    (∃ s, (Program.preflight host command).result = .ok s) ∧
    (∃ message, (TestRun.configure host settings .none false).result = .error (.usage message)) ∧
    (TestRun.configure host settings .none false).stored? = none := by
  obtain ⟨hprogram, hrunner⟩ := TestRun.starts_or_reports host
  constructor
  · rcases hprogram command isReadable with hfound | ⟨e, hmistake, -⟩
    · exact hfound
    · have hresolve : (loader.resolve host "qa").result = .ok config := resolve_eq "qa"
      have hselect : (command.choice.select config).isOk = true := by decide +kernel
      have hprepare := Program.preflight_eq_error hmistake
      change (Program.prepare loader host "qa" command.choice.select).result = .error e at hprepare
      simp only [Program.prepare, hresolve] at hprepare
      cases hchosen : command.choice.select config with
      | error f =>
        rw [hchosen] at hselect
        contradiction
      | ok s =>
        simp only [hchosen] at hprepare
        contradiction
  · have hreadable : (TestRun.loader settings .none).Readable host := by
      rw [loader_settings]
      exact isReadable
    have hwritten : (TestRun.loader settings .none).IsWritten host := by
      rw [loader_settings]
      exact isWritten
    rcases hrunner settings .none hreadable with
      ⟨r, hfound, -⟩ | ⟨e, -, hstored, ⟨-, hresult⟩ | ⟨⟨-, hlong⟩, -⟩⟩
    · have hunknown : Overlays.resolve "local" [] [("qa", [])] =
          .error (.unknownEnvironment "local" (Overlays.names [("qa", [])])) := rfl
      have hresolve := (resolve_eq "local").trans hunknown
      have hname : TestRun.environmentName host settings .none = "local" := by decide
      simp only [TestRun.setUp_result, loader_settings, hname, Program.prepare, hresolve] at hfound
      contradiction
    · exact ⟨⟨e.message, hresult⟩, hstored⟩
    · contradiction

end OneEnvironment

end TaggedSuite
