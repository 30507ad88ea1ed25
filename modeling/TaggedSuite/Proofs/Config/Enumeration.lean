import Mathlib.Data.List.Forall2
import TaggedSuite.Proofs.Config.Loading
import TaggedSuite.Proofs.Config.Validation
import TaggedSuite.Proofs.Files.Places
import TaggedSuite.Proofs.Value.Keys

/-!
# Which files are read

The base file and the overlays are found by looking into the directories of a configuration. Their
paths then go through the search that every load begins with, and this search tries a path from the
directory of the loader first. So what is read is the file that was found, unless the path, followed
from the directory once more, leads to another file. That cannot be if the directory does not depend
on the working directory. What is kept does not matter: it is what its file holds.
-/
namespace TaggedSuite

namespace Loader

open Loading (Ends)
open SettingsFile (Format)

variable {l m : Loader} {disk : Disk} {p : Path} {o : LoadOptions}

/-- The path that a load reads if there is a file at the given one. -/
def source (l : Loader) (disk : Disk) (p : Path) : Path :=
  if disk.isFile (l.directory.append p) then l.directory.append p else p

/-- The paths that are found by looking into the directories of a configuration. -/
def listed (l : Loader) (disk : Disk) : List Path :=
  (l.basePath? disk).toList ++ l.overlayPaths disk

/-! ### The search for a file -/

lemma locate_of_isFile (h : disk.isFile p = true) : l.locate disk p = some (l.source disk p) := by
  by_cases hnested : disk.isFile (l.directory.append p) = true
  · simp [locate, source, hnested]
  · simp [locate, source, hnested, h]

lemma source_congr (h : m.directory = l.directory) : m.source disk p = l.source disk p := by
  rw [source, source, h]

/-- The search finds a file in the same format. -/
lemma isFile_source (h : SettingsFile.isFile disk p = true) :
    SettingsFile.isFile disk (l.source disk p) = true := by
  by_cases hnested : disk.isFile (l.directory.append p) = true
  · obtain ⟨-, hformat⟩ := SettingsFile.isFile_iff.1 h
    have hname : (l.directory.append p).name = p.name :=
      Path.name_append (SettingsFile.name_of_format hformat).1
    rw [source, if_pos hnested]
    refine SettingsFile.isFile_iff.2 ⟨hnested, ?_⟩
    rw [Path.suffix, hname]
    exact hformat
  · rwa [source, if_neg hnested]

/-- The search does not go astray if the path does not depend on where it is followed from, or if it
leads nowhere from the directory. -/
lemma source_eq_self (h : p.isAbsolute = true ∨ disk.isFile (l.directory.append p) = false) :
    l.source disk p = p := by
  rcases h with h | h
  · rw [source, Path.append_of_isAbsolute h, ite_self]
  · rw [source, h]
    rfl

/-! ### The paths of a configuration -/

lemma basePath?_eq : l.basePath? disk =
    (baseNames.find? fun n => disk.isFile (l.directory.below n)).map l.directory.below := by
  rw [basePath?, List.find?_map]
  rfl

lemma format_of_baseName :
    ∀ name ∈ baseNames, (Format.ofSuffix? (FileName.suffix name)).isSome = true := by decide

lemma isFile_of_basePath? (h : l.basePath? disk = some p) :
    SettingsFile.isFile disk p = true := by
  rw [basePath?_eq, Option.map_eq_some_iff] at h
  obtain ⟨name, hfound, rfl⟩ := h
  have hfile := List.find?_some hfound
  refine SettingsFile.isFile_iff.2 ⟨hfile, ?_⟩
  rw [Path.suffix, Path.name_below]
  exact format_of_baseName name (List.mem_of_find?_eq_some hfound)

lemma isFile_of_mem_overlayPaths (h : p ∈ l.overlayPaths disk) :
    SettingsFile.isFile disk p = true :=
  (List.mem_filter.1 h).2

/-- A path that is found depends on the working directory if the directory of the loader does. -/
lemma isAbsolute_of_mem_listed (h : p ∈ l.listed disk) :
    p.isAbsolute = l.directory.isAbsolute := by
  rcases List.mem_append.1 h with h | h
  · rw [Option.mem_toList, basePath?_eq, Option.map_eq_some_iff] at h
    obtain ⟨name, -, rfl⟩ := h
    exact Path.isAbsolute_below name
  · obtain ⟨name, -, rfl⟩ := List.mem_map.1 (List.mem_filter.1 h).1
    rw [Path.isAbsolute_below, environments, Path.isAbsolute_below]

lemma overlayPaths_eq_nil (h : disk.isDirectory l.environments = false) :
    l.overlayPaths disk = [] := by
  rw [overlayPaths, Disk.names_eq_nil h]
  rfl

/-! ### What is kept -/

/-- Whatever is kept is what a file at its place holds. -/
def Faithful (disk : Disk) (l : Loader) : Prop :=
  ∀ e ∈ l.kept, ∀ p, SettingsFile.isFile disk p = true → disk.resolve p = e.1 →
    SettingsFile.read disk p = .ok e.2.settings

/-- The second loader is the first one with other readings, all of which its files hold. -/
structure Serves (disk : Disk) (l m : Loader) : Prop where
  directory : m.directory = l.directory
  variablesFile? : m.variablesFile? = l.variablesFile?
  variables? : m.variables? = l.variables?
  faithful : m.Faithful disk

lemma serves_of_new (h : l.kept = []) : Serves disk l l :=
  ⟨rfl, rfl, rfl, fun e he => by simp [h] at he⟩

lemma Faithful.of_remembered {r : Reading} (h : l.Faithful disk)
    (hp : SettingsFile.isFile disk p = true) (hkept : l.remembered? disk p o = some r) :
    SettingsFile.read disk p = .ok r.settings := by
  rw [remembered?] at hkept
  split_ifs at hkept
  obtain ⟨before, after, hsplit, -⟩ := List.lookup_eq_some_iff.1 hkept
  exact h (disk.resolve p, r) (by simp [hsplit]) p hp rfl

/-- To keep what a file holds is right for all paths to its place. -/
lemma Faithful.keep {r : Reading} (h : l.Faithful disk)
    (hread : SettingsFile.read disk p = .ok r.settings) :
    (l.keep (disk.resolve p) r).Faithful disk := by
  intro e he q hq hplace
  rcases List.mem_cons.1 he with rfl | he
  · exact SettingsFile.read_of_resolve hq hread hplace
  · exact h e he q hq hplace

/-! ### Loads -/

lemma checkAny_serves (schema? : Option String) (text : String) (settings : Entries)
    (h : Serves disk l m) :
    Ends (Serves disk l) (fun _ => True) (fun _ => True)
      (m.checkAny disk schema? text settings) := by
  cases schema? with
  | none => exact .ofOk h trivial
  | some name =>
    exact .ofResult ⟨h.directory, h.variablesFile?, h.variables?, h.faithful⟩
      (fun _ _ => trivial) fun _ _ => trivial

/-- What a load gives is what the file holds, whether it is read or was kept. -/
lemma loadAt_serves (h : Serves disk l m) :
    Ends (Serves disk l) (fun _ => True)
      (fun r => SettingsFile.isFile disk p = true → SettingsFile.read disk p = .ok r.settings)
      (m.loadAt disk p o) := by
  rw [loadAt]
  cases hkept : m.remembered? disk p o with
  | some r => exact .ofOk h fun hp => h.faithful.of_remembered hp hkept
  | none =>
    have hread : Ends (Serves disk l) (fun _ => True)
        (fun r => SettingsFile.read disk p = .ok r.settings ∧ True) (m.readAt disk p o) := by
      apply readAt_ends (fun _ => True) h fun _ _ => trivial
      · intro settings _
        exact checkAny_serves o.schemaToCheck p.text settings
          ⟨h.directory, h.variablesFile?, h.variables?, h.faithful⟩
      · intro n settings hn hheld _
        exact ⟨hn.directory, hn.variablesFile?, hn.variables?, hn.faithful.keep hheld⟩
    exact hread.imp fun r hr _ => hr.1

lemma loadPath_serves (h : Serves disk l m) (text : String) :
    Ends (Serves disk l) (fun _ => True)
      (fun r => SettingsFile.isFile disk p = true →
        SettingsFile.read disk (l.source disk p) = .ok r.settings)
      (m.loadPath disk p text o) := by
  rw [loadPath]
  cases hfound : m.locate disk p with
  | none => exact .ofError h trivial
  | some q =>
    refine (loadAt_serves h).imp fun r hr hp => ?_
    have hfile : disk.isFile p = true := (SettingsFile.isFile_iff.1 hp).1
    have hsource : q = l.source disk p := by
      rw [locate_of_isFile hfile, source_congr h.directory] at hfound
      exact (Option.some.inj hfound).symm
    rw [← hsource]
    exact hr (hsource ▸ isFile_source hp)

/-- The base settings are those of the first base file in the directory. -/
lemma loadBase_serves (h : Serves disk l m) :
    Ends (Serves disk l) (fun _ => True)
      (fun settings => ∀ p, l.basePath? disk = some p →
        SettingsFile.read disk (l.source disk p) = .ok settings)
      (m.loadBase disk) := by
  rw [loadBase, basePath?_congr h.directory]
  cases hbase : l.basePath? disk with
  | none =>
    refine .ofOk h fun p hp => ?_
    cases hp
  | some p =>
    refine .map ((loadPath_serves h p.text).imp fun r hr q hq => ?_)
    obtain rfl := Option.some.inj hq
    exact hr (isFile_of_basePath? hbase)

/-- The overlay holds the settings of the path, with values in the place of their references to the
variables that are gathered. -/
def Holds (l : Loader) (host : Host) (p : Path) (overlay : Entries) : Prop :=
  ∃ vars log settings,
    Variables.gather host.disk host.processVariables l.variablesFile? l.variables? =
      .ok (vars, log) ∧
    SettingsFile.read host.disk (l.source host.disk p) = .ok settings ∧
    Expand.valueEntries vars p.text settings = .ok overlay

lemma loadOverlays_serves {host : Host} (h : Serves host.disk l m) :
    Ends (Serves host.disk l) (fun _ => True)
      (fun overlays => (overlays.map (·.1)).Nodup ∧
        AreOf (l.Holds host) (l.overlayPaths host.disk) overlays)
      (m.loadOverlays host) := by
  have henvironments : m.environments = l.environments := by
    rw [environments, environments, h.directory]
  rw [loadOverlays, henvironments, h.variablesFile?, h.variables?, overlayPaths_congr h.directory]
  split_ifs with hthere
  · cases hgather : Variables.gather host.disk host.processVariables l.variablesFile? l.variables?
      with
    | error f => exact .ofError h trivial
    | ok gathered =>
      have hstep : ∀ n p, Serves host.disk l n → p ∈ l.overlayPaths host.disk →
          Ends (Serves host.disk l) (fun _ => True) (l.Holds host p)
            (n.loadOverlay host.disk gathered.1 p) := by
        intro n p hn hp
        refine (loadPath_serves hn p.text).andThen fun k r hk hr => ?_
        exact .ofResult hk (fun _ _ => trivial) fun overlay hoverlay =>
          ⟨_, _, r.settings, hgather, hr (isFile_of_mem_overlayPaths hp), hoverlay⟩
      have hall := loadOverlaysAt_ends hstep (fun _ _ _ => trivial) [] h List.nodup_nil
      refine Ends.relog (hall.andThen fun n overlays hn hgood => ?_)
      obtain ⟨hnodup, more, rfl, hmore⟩ := hgood
      exact .ofOk hn ⟨hnodup, hmore⟩
  · refine .ofOk h ⟨List.nodup_nil, ?_⟩
    rw [overlayPaths_eq_nil (Bool.not_eq_true _ ▸ hthere)]
    exact .nil

lemma resolve_serves {host : Host} (h : Serves host.disk l m) (name : String) :
    Ends (Serves host.disk l) (fun _ => True) (fun _ => True) (m.resolve host name) := by
  rw [resolve]
  refine Ends.relog ((loadBase_serves h).andThen fun n base hn _ => ?_)
  refine (loadOverlays_serves hn).andThen fun k overlays hk _ => ?_
  cases Overlays.resolve name base overlays with
  | error e => exact .ofError hk trivial
  | ok c => exact .ofOk hk trivial

/-! ### Runs -/

/-- Every call leaves a loader whose readings its files hold. -/
lemma serves_perform {host : Host} (h : Serves host.disk l m) (a : Action) :
    Serves host.disk l (m.perform host a).loader := by
  cases a with
  | load file o => exact (loadPath_serves h file).inv
  | loadBase => exact (loadBase_serves h).inv
  | loadOverlays => exact (loadOverlays_serves h).inv
  | resolve name => exact (resolve_serves h name).inv
  | clearCache => exact ⟨h.directory, h.variablesFile?, h.variables?, fun e he => nomatch he⟩
  | available | change disk => exact h

/-- As long as the files stay as they are, each call finds a loader whose readings its files hold. -/
lemma serves_run {start : Loader} {host h : Host} {actions : List Action} {a : Action}
    {x : Loading Answer} {past future : List (Host × Action × Loading Answer)}
    (hserves : Serves h.disk start l) (hrun : l.run host actions = past ++ (h, a, x) :: future)
    (hstill : ∀ c ∈ past, c.1.disk = h.disk) :
    ∃ m, x = m.perform h a ∧ Serves h.disk start m := by
  induction actions generalizing l host past with
  | nil => simp [run] at hrun
  | cons b actions ih =>
    rw [run] at hrun
    cases past with
    | nil =>
      simp only [List.nil_append, List.cons.injEq, Prod.mk.injEq] at hrun
      obtain ⟨⟨rfl, rfl, rfl⟩, -⟩ := hrun
      exact ⟨l, rfl, hserves⟩
    | cons call past =>
      simp only [List.cons_append, List.cons.injEq] at hrun
      obtain ⟨rfl, hrest⟩ := hrun
      obtain ⟨hdisk, hstill⟩ := List.forall_mem_cons.1 hstill
      have hnext : Serves h.disk start (l.perform host b).loader := by
        rw [← hdisk] at hserves ⊢
        exact serves_perform hserves b
      exact ih hnext hrest hstill

/-- What the calls of a run on a new loader give, as long as the files stay as they are. The base
settings are those of the first base file in the directory. The overlays are those of the files in
the directory of the environments, each once and under the stem of its file. The file that is read
is the one that was found, if the directory is absolute or the path of the file, followed from the
directory once more, does not lead to a file. -/
theorem run_reads_listed {host h : Host} {actions : List Action} {a : Action} {x : Loading Answer}
    {past future : List (Host × Action × Loading Answer)} (hnew : l.kept = [])
    (hrun : l.run host actions = past ++ (h, a, x) :: future)
    (hstill : ∀ c ∈ past, c.1.disk = h.disk) :
    (∀ name settings, a = .loadBase →
      baseNames.find? (fun n => h.disk.isFile (l.directory.below n)) = some name →
      x.result = .ok (.base settings) →
      SettingsFile.read h.disk (l.source h.disk (l.directory.below name)) = .ok settings) ∧
    (∀ overlays, a = .loadOverlays → x.result = .ok (.overlays overlays) →
      (overlays.map (·.1)).Nodup ∧ AreOf (l.Holds h) (l.overlayPaths h.disk) overlays) ∧
    (∀ p ∈ l.listed h.disk,
      l.directory.isAbsolute = true ∨ h.disk.isFile (l.directory.append p) = false →
      l.source h.disk p = p) := by
  obtain ⟨m, rfl, hserves⟩ := serves_run (serves_of_new hnew) hrun hstill
  refine ⟨?_, ?_, ?_⟩
  · rintro name settings rfl hname hsettings
    obtain ⟨_, hloaded, ⟨⟩⟩ := Loading.map_eq_ok.1 hsettings
    apply (loadBase_serves hserves).good settings hloaded
    rw [basePath?_eq, hname]
    rfl
  · rintro overlays rfl hoverlays
    obtain ⟨_, hloaded, ⟨⟩⟩ := Loading.map_eq_ok.1 hoverlays
    exact (loadOverlays_serves hserves).good overlays hloaded
  · intro p hp hplain
    rw [← isAbsolute_of_mem_listed hp] at hplain
    exact source_eq_self hplain

end Loader

/-! ### A directory inside of a directory of the same name -/

namespace Nested

/-- A project whose directory of settings holds another one of the same name. -/
def host : Host where
  disk := ⟨[(["config", "base.json"], .ok "\x7b\"label\": \"open\"\x7d"),
    (["config", "config", "base.json"], .ok "\x7b\x7d"),
    (["config", "environments", "qa.json"], .ok "\x7b\x7d"),
    (["config", "config", "environments", "qa.json"], .ok "\x7b\"label\": \"closed\"\x7d")], [], []⟩
  processVariables := []

/-- A new loader of the settings in a directory. -/
def loader (directory : String) : Loader := .new (.ofText directory) none none none

/-- Whether settings were read, and these are so many, none of which is among the properties. -/
def areFree (count : Nat) (properties : List (String × Value)) :
    Except ConfigError Entries → Bool
  | .ok settings => settings.length == count &&
    properties.all fun p => (Entries.get? settings (.str p.1)).isNone
  | .error _ => false

lemma exists_of_areFree {title : String} {count : Nat} {properties : List (String × Value)}
    {read : Except ConfigError Entries} (hschema : ∀ p ∈ properties, Schema.IsSchema p.2)
    (h : areFree count properties read = true) :
    ∃ settings, read = .ok settings ∧ settings.length = count ∧
      Schema.Conforms (Bundled.document title properties) (.map settings) := by
  cases read with
  | error e => cases h
  | ok settings =>
    rw [areFree, Bool.and_eq_true, List.all_eq_true, beq_iff_eq] at h
    exact ⟨settings, rfl, h.1, Bundled.conforms_of_free hschema h.2⟩

lemma loadBase_absolute : ∃ settings,
    ((loader "/config").perform host .loadBase).result = .ok (.base settings) ∧
      Value.IsKeyed (.map settings) ∧ ∀ key ∈ ["env", "baseUrl", "apiUrl"],
        settings.get? (.str key) = none := by
  have hbase : (loader "/config").basePath? host.disk = some (.ofText "/config/base.json") := by
    decide
  have hlocate : (loader "/config").locate host.disk (.ofText "/config/base.json") =
      some (.ofText "/config/base.json") := by decide
  obtain ⟨settings, hread, -, hconforms⟩ : ∃ settings,
      SettingsFile.read host.disk (.ofText "/config/base.json") = .ok settings ∧
        settings.length = 1 ∧ Schema.Conforms Bundled.base (.map settings) :=
    exists_of_areFree Bundled.isSchema_base (by decide +kernel)
  have hfree : areFree 1 [("env", .null), ("baseUrl", .null), ("apiUrl", .null)]
    (SettingsFile.read host.disk (.ofText "/config/base.json")) = true := by decide +kernel
  rw [hread, areFree, Bool.and_eq_true] at hfree
  refine ⟨settings, Loading.map_eq_ok.2 ⟨settings, ?_, rfl⟩, SettingsFile.isKeyed_of_read hread,
    by simpa using hfree.2⟩
  exact Loader.loadBase_of_conforms SchemaRegistry.isBundled_new rfl hbase hlocate hread hconforms

lemma loadOverlays_absolute :
    ((loader "/config").perform host .loadOverlays).result = .ok (.overlays [("qa", [])]) := by
  have hpaths : (loader "/config").overlayPaths host.disk =
      [.ofText "/config/environments/qa.json"] := by decide +kernel
  have hlocate : (loader "/config").locate host.disk (.ofText "/config/environments/qa.json") =
      some (.ofText "/config/environments/qa.json") := by decide
  obtain ⟨settings, hread, hcount, hconforms⟩ : ∃ settings,
      SettingsFile.read host.disk (.ofText "/config/environments/qa.json") = .ok settings ∧
        settings.length = 0 ∧ Schema.Conforms Bundled.overlay (.map settings) :=
    exists_of_areFree Bundled.isSchema_overlay (by decide +kernel)
  obtain rfl : settings = [] := List.length_eq_zero_iff.1 hcount
  have hload : ((loader "/config").loadOverlays host).result = .ok [("qa", [])] :=
    Loader.loadOverlays_of_conforms SchemaRegistry.isBundled_new rfl (by decide) rfl hpaths hlocate
      hread hconforms rfl
  exact Loading.map_eq_ok.2 ⟨_, hload, rfl⟩

/-- With the absolute path of the directory the files in it are read. -/
theorem run_reads_listed_nested :
    (∃ settings, ((loader "/config").perform host .loadBase).result = .ok (.base settings) ∧
      SettingsFile.read host.disk (.ofText "/config/base.json") = .ok settings) ∧
    ∃ overlays, ((loader "/config").perform host .loadOverlays).result = .ok (.overlays overlays) ∧
      Loader.AreOf ((loader "/config").Holds host) [.ofText "/config/environments/qa.json"]
        overlays := by
  have hpaths : (loader "/config").overlayPaths host.disk =
      [.ofText "/config/environments/qa.json"] := by decide +kernel
  obtain ⟨settings, hsettings, -⟩ := loadBase_absolute
  have hoverlays := loadOverlays_absolute
  have hbaseRun : (loader "/config").run host [.loadBase] =
      [] ++ (host, .loadBase, (loader "/config").perform host .loadBase) :: [] := rfl
  have hoverlaysRun : (loader "/config").run host [.loadOverlays] =
      [] ++ (host, .loadOverlays, (loader "/config").perform host .loadOverlays) :: [] := rfl
  obtain ⟨hbase, -, hsource⟩ := Loader.run_reads_listed rfl hbaseRun fun _ h => nomatch h
  obtain ⟨-, hall, -⟩ := Loader.run_reads_listed rfl hoverlaysRun fun _ h => nomatch h
  have hread := hbase "base.json" settings rfl (by decide) hsettings
  rw [hsource _ (by decide) (.inl (by decide))] at hread
  have hof := (hall [("qa", [])] rfl hoverlays).2
  rw [hpaths] at hof
  exact ⟨⟨settings, hsettings, hread⟩, _, hoverlays, hof⟩

/-- With a path from the working directory the base file is found but another file is read. -/
theorem loadBase_nested : ∃ settings found,
    Loader.baseNames.find? (fun n => host.disk.isFile ((loader "config").directory.below n)) =
      some "base.json" ∧
    ((loader "config").loadBase host.disk).result = .ok settings ∧
    SettingsFile.read host.disk ((loader "config").directory.below "base.json") = .ok found ∧
    found ≠ settings := by
  have hbase : (loader "config").basePath? host.disk = some (.ofText "config/base.json") := by
    decide
  have hlocate : (loader "config").locate host.disk (.ofText "config/base.json") =
      some (.ofText "config/config/base.json") := by decide
  obtain ⟨settings, hread, hnone, hconforms⟩ : ∃ settings,
      SettingsFile.read host.disk (.ofText "config/config/base.json") = .ok settings ∧
        settings.length = 0 ∧ Schema.Conforms Bundled.base (.map settings) :=
    exists_of_areFree Bundled.isSchema_base (by decide +kernel)
  obtain ⟨found, hfound, hone, -⟩ : ∃ found,
      SettingsFile.read host.disk ((loader "config").directory.below "base.json") = .ok found ∧
        found.length = 1 ∧ Schema.Conforms Bundled.base (.map found) :=
    exists_of_areFree Bundled.isSchema_base (by decide +kernel)
  refine ⟨settings, found, by decide, ?_, hfound, ?_⟩
  · exact Loader.loadBase_of_conforms SchemaRegistry.isBundled_new rfl hbase hlocate hread hconforms
  · rintro rfl
    omega

end Nested

end TaggedSuite
