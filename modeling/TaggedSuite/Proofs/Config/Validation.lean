import Mathlib.Control.Monad.Basic
import Mathlib.Data.List.Basic
import TaggedSuite.Config.Loader.Run
import TaggedSuite.Proofs.Schema.Documents

/-!
# What a load with a check returns

A loader keeps what it reads by the location of the file alone. So a load gets what an earlier load
has kept, and what is kept has passed the check of the load that read it, not that of the load that
gets it. A run accounts for this by what its calls have asked for: as long as all of them ask for
the same schema where a file is kept, no load with a check returns settings that violate its schema.
-/
namespace TaggedSuite

namespace SchemaRegistry

variable {r : SchemaRegistry} {disk : Disk} {name : String} {v : Value}

/-- The registry has read the schema with the name and reports no violation of it. -/
def Accepts (r : SchemaRegistry) (name : String) (v : Value) : Prop :=
  ∃ c, r.compiled.lookup name = some c ∧ c.problems v = .ok []

/-- A schema that has been read stays as it is. -/
lemma Accepts.find (h : r.Accepts name v) (other : String) :
    (r.find disk other).registry.Accepts name v := by
  obtain ⟨c, hc, hnone⟩ := h
  refine ⟨c, ?_, hnone⟩
  rw [SchemaRegistry.find]
  cases hother : r.compiled.lookup other with
  | some _ => exact hc
  | none =>
    cases r.compile disk other with
    | error _ => exact hc
    | ok d =>
      have hne : (name == other) = false := by
        rw [beq_eq_false_iff_ne]
        rintro rfl
        simp [hother] at hc
      simpa [List.lookup_cons, hne] using hc

/-- A value that passes the check with a schema is accepted from then on. -/
lemma accepts_of_check {source : String}
    (h : ((r.find disk name).result.bind fun c => check c name source v) = .ok ()) :
    (r.find disk name).registry.Accepts name v := by
  cases hfound : (r.find disk name).result with
  | error e => simp [hfound, Except.bind] at h
  | ok c =>
    rw [hfound] at h
    have hnone := CompiledSchema.problems_eq_nil_iff.2 (check_eq_ok.1 h)
    refine ⟨c, ?_, hnone⟩
    revert hfound
    rw [SchemaRegistry.find]
    cases hread : r.compiled.lookup name with
    | some d =>
      rintro ⟨⟩
      exact hread
    | none =>
      cases r.compile disk name with
      | error e => rintro ⟨⟩
      | ok d =>
        rintro ⟨⟩
        simp

end SchemaRegistry

lemma Loading.map_eq_ok {α β : Type} {x : Loading α} {f : α → β} {b : β} :
    (x.map f).result = .ok b ↔ ∃ a, x.result = .ok a ∧ f a = b := by
  rw [Loading.map]
  cases x.result <;> simp [Except.map]

namespace Loader

/-- What a load asks for that keeps what it reads: a file, by its location, and the schema that the
settings in it have to match. -/
structure Ask where
  place : Location
  schema? : Option String

/-- What loads of files with a schema ask for. -/
def asksAt (l : Loader) (disk : Disk) (files : List Path) (schema? : Option String) : List Ask :=
  (files.filterMap (l.locate disk)).map fun p => ⟨disk.resolve p, schema?⟩

/-- What a call asks for. -/
def asks (l : Loader) (disk : Disk) : Action → List Ask
  | .load file o => if o.useCache then l.asksAt disk [.ofText file] o.schemaToCheck else []
  | .loadBase => l.asksAt disk (l.basePath? disk).toList (some Bundled.baseName)
  | .loadOverlays => l.asksAt disk (l.overlayPaths disk) (some Bundled.overlayName)
  | .resolve _ =>
    l.asksAt disk (l.basePath? disk).toList (some Bundled.baseName) ++
      l.asksAt disk (l.overlayPaths disk) (some Bundled.overlayName)
  | .available | .clearCache | .change _ => []

variable {l m : Loader} {disk : Disk} {asked : List Ask} {schema? : Option String}
  {settings : Entries} {p : Path} {o : LoadOptions}

lemma mem_asksAt {a : Ask} {files : List Path} :
    a ∈ l.asksAt disk files schema? ↔
      ∃ file ∈ files, ∃ p, l.locate disk file = some p ∧ a = ⟨disk.resolve p, schema?⟩ := by
  simp only [asksAt, List.mem_map, List.mem_filterMap]
  constructor
  · rintro ⟨p, ⟨file, hfile, hp⟩, rfl⟩
    exact ⟨file, hfile, p, hp, rfl⟩
  · rintro ⟨file, hfile, p, hp, rfl⟩
    exact ⟨p, ⟨file, hfile, hp⟩, rfl⟩

lemma asksAt_cons (file : Path) (files : List Path) :
    l.asksAt disk (file :: files) schema? =
      l.asksAt disk [file] schema? ++ l.asksAt disk files schema? := by
  simp only [asksAt, ← List.map_append, ← List.filterMap_append, List.singleton_append]

lemma basePath?_congr (h : m.directory = l.directory) (disk : Disk) :
    m.basePath? disk = l.basePath? disk := by
  rw [basePath?, basePath?, h]

lemma overlayPaths_congr (h : m.directory = l.directory) (disk : Disk) :
    m.overlayPaths disk = l.overlayPaths disk := by
  rw [overlayPaths, overlayPaths, environments, environments, h]

lemma locate_congr (h : m.directory = l.directory) (disk : Disk) :
    m.locate disk = l.locate disk := by
  funext file
  rw [locate, locate, h]

lemma asksAt_congr (h : m.directory = l.directory) (disk : Disk) (files : List Path)
    (schema? : Option String) : m.asksAt disk files schema? = l.asksAt disk files schema? := by
  rw [asksAt, asksAt, locate_congr h]

/-- What is asked for depends on the directory of the loader alone. -/
lemma asks_congr (h : m.directory = l.directory) (disk : Disk) (a : Action) :
    m.asks disk a = l.asks disk a := by
  cases a <;> simp only [asks, basePath?_congr h, overlayPaths_congr h, asksAt_congr h]

/-- The settings match the schema, if there is one. -/
def Accepts (l : Loader) (schema? : Option String) (settings : Entries) : Prop :=
  ∀ name ∈ schema?, l.registry.Accepts name (.map settings)

/-- Whatever is kept was asked for, and it matches the schema that was asked for with it. -/
def Vouched (asked : List Ask) (l : Loader) : Prop :=
  ∀ e ∈ l.kept, ∃ schema?, ⟨e.1, schema?⟩ ∈ asked ∧ l.Accepts schema? e.2.settings

/-- Wherever the file was asked for, it was with the schema. -/
def Agreed (asked : List Ask) (place : Location) (schema? : Option String) : Prop :=
  ∀ a ∈ asked, a.place = place → a.schema? = schema?

/-- The second loader comes from the first one by loads that ask for what is listed. -/
structure GoesOn (asked : List Ask) (l m : Loader) : Prop where
  directory : m.directory = l.directory
  accepts : ∀ {schema? settings}, l.Accepts schema? settings → m.Accepts schema? settings
  vouched : l.Vouched asked → m.Vouched asked

lemma GoesOn.refl : GoesOn asked l l := ⟨rfl, id, id⟩

lemma GoesOn.trans {n : Loader} (h : GoesOn asked l m) (h' : GoesOn asked m n) :
    GoesOn asked l n :=
  ⟨h'.directory.trans h.directory, h'.accepts ∘ h.accepts, h'.vouched ∘ h.vouched⟩

/-! ### One file -/

lemma goesOn_check (name source : String) (settings : Entries) :
    GoesOn asked l (l.check disk name source settings).loader := by
  have haccepts {schema? settings'} (h : l.Accepts schema? settings') :
      (l.check disk name source settings).loader.Accepts schema? settings' :=
    fun other hother => (h other hother).find name
  refine ⟨rfl, haccepts, fun h e he => ?_⟩
  obtain ⟨schema?, hasked, hmatches⟩ := h e he
  exact ⟨schema?, hasked, haccepts hmatches⟩

/-- A check lets pass only what matches the schema. -/
lemma checkAny_spec (asked : List Ask) (disk : Disk) (schema? : Option String) (source : String)
    (settings : Entries) :
    GoesOn asked l (l.checkAny disk schema? source settings).loader ∧
      ((l.checkAny disk schema? source settings).result = .ok () →
        (l.checkAny disk schema? source settings).loader.Accepts schema? settings) := by
  cases schema? with
  | none => exact ⟨.refl, fun _ _ h => nomatch h⟩
  | some name =>
    refine ⟨goesOn_check name source settings, fun hpassed other hother => ?_⟩
    cases hother
    exact SchemaRegistry.accepts_of_check hpassed

/-- What is read has passed its check, also when it is kept. -/
lemma readAt_spec (hasked : o.useCache = true → ⟨disk.resolve p, o.schemaToCheck⟩ ∈ asked) :
    GoesOn asked l (l.readAt disk p o).loader ∧
      ∀ r, (l.readAt disk p o).result = .ok r →
        (l.readAt disk p o).loader.Accepts o.schemaToCheck r.settings := by
  unfold readAt
  cases SettingsFile.read disk p with
  | error e => exact ⟨.refl, fun r h => nomatch h⟩
  | ok settings =>
    set counted : Loader := { l with readings := l.readings + 1 }
    have hstart : GoesOn asked l counted := ⟨rfl, id, id⟩
    obtain ⟨hgoes, hpassed⟩ :=
      checkAny_spec (l := counted) asked disk o.schemaToCheck p.text settings
    simp only [Loading.andThen]
    cases hresult : (counted.checkAny disk o.schemaToCheck p.text settings).result with
    | error e => exact ⟨hstart.trans hgoes, fun r h => nomatch h⟩
    | ok _ =>
      have haccepts := hpassed hresult
      cases hcache : o.useCache with
      | false =>
        refine ⟨hstart.trans hgoes, fun r h => ?_⟩
        cases h
        exact haccepts
      | true =>
        refine ⟨(hstart.trans hgoes).trans ⟨rfl, id, fun h e he => ?_⟩, fun r h => ?_⟩
        · rcases List.mem_cons.1 he with rfl | he
          · exact ⟨o.schemaToCheck, hasked hcache, haccepts⟩
          · exact h e he
        · cases h
          exact haccepts

/-- What is kept of a file matches the schema if all loads of the file asked for it. -/
lemma accepts_of_remembered {r : Reading} (hvouched : l.Vouched asked)
    (hagreed : o.useCache = true → Agreed asked (disk.resolve p) schema?)
    (h : l.remembered? disk p o = some r) : l.Accepts schema? r.settings := by
  rw [remembered?] at h
  split_ifs at h with hcache
  obtain ⟨before, after, hkept, -⟩ := List.lookup_eq_some_iff.1 h
  obtain ⟨asked?, hasked, haccepts⟩ := hvouched (disk.resolve p, r) (by simp [hkept])
  rw [← hagreed hcache _ hasked rfl]
  exact haccepts

/-- What comes of loading something that asks for what is listed last: the loader goes on, and what
is returned is good if all earlier calls agree with what is asked for. -/
structure Loads {α : Type} (asked own : List Ask) (l : Loader) (x : Loading α)
    (Good : Loader → α → Prop) : Prop where
  goesOn : own ⊆ asked → GoesOn asked l x.loader
  good : own ⊆ asked → l.Vouched asked → (∀ b ∈ own, Agreed asked b.place b.schema?) →
    ∀ a, x.result = .ok a → Good x.loader a

section
variable {α β : Type} {own more : List Ask} {x : Loading α} {Good : Loader → α → Prop}
  {Best : Loader → β → Prop} {log : List LogLine}

lemma Loads.error {e : ConfigError} : Loads asked own l ⟨l, log, .error e⟩ Good :=
  ⟨fun _ => .refl, fun _ _ _ _ h => nomatch h⟩

lemma Loads.ok {a : α} (h : Good l a) : Loads asked own l ⟨l, log, .ok a⟩ Good := by
  refine ⟨fun _ => .refl, fun _ _ _ b hb => ?_⟩
  cases hb
  exact h

lemma Loads.imp {Fine : Loader → α → Prop} (h : Loads asked own l x Good)
    (hgood : ∀ m a, Good m a → Fine m a) : Loads asked own l x Fine :=
  ⟨h.goesOn, fun hasked hvouched hagreed a ha => hgood _ a (h.good hasked hvouched hagreed a ha)⟩

lemma Loads.relog (h : Loads asked own l x Good) :
    Loads asked own l ⟨x.loader, log, x.result⟩ Good :=
  ⟨h.goesOn, h.good⟩

lemma Loads.map {f : α → β} (h : Loads asked own l x fun m a => Best m (f a)) :
    Loads asked own l (x.map f) Best := by
  refine ⟨h.goesOn, fun hasked hvouched hagreed b hb => ?_⟩
  obtain ⟨a, ha, rfl⟩ := Loading.map_eq_ok.1 hb
  exact h.good hasked hvouched hagreed a ha

/-- One thing is loaded after the other. -/
lemma Loads.andThen {next : Loader → α → Loading β} (hx : Loads asked own l x Good)
    (hnext : GoesOn asked l x.loader → ∀ a, x.result = .ok a →
      Loads asked more x.loader (next x.loader a) fun m b =>
        GoesOn asked x.loader m → Good x.loader a → Best m b) :
    Loads asked (own ++ more) l (x.andThen next) Best := by
  rw [Loading.andThen]
  cases hresult : x.result with
  | error e =>
    exact ⟨fun hasked => hx.goesOn (List.append_subset.1 hasked).1, fun _ _ _ _ h => nomatch h⟩
  | ok a =>
    refine ⟨fun hasked => ?_, fun hasked hvouched hagreed b hb => ?_⟩
    · obtain ⟨hown, hmore⟩ := List.append_subset.1 hasked
      have hgoes := hx.goesOn hown
      exact hgoes.trans ((hnext hgoes a hresult).goesOn hmore)
    · obtain ⟨hown, hmore⟩ := List.append_subset.1 hasked
      obtain ⟨hagreedOwn, hagreedMore⟩ := List.forall_mem_append.1 hagreed
      have hgoes := hx.goesOn hown
      have hlast := hnext hgoes a hresult
      exact hlast.good hmore (hgoes.vouched hvouched) hagreedMore b hb (hlast.goesOn hmore)
        (hx.good hown hvouched hagreedOwn a hresult)

/-- The last step asks for nothing. -/
lemma Loads.close {next : Loader → α → Loading β} (hx : Loads asked own l x Good)
    (hnext : ∀ a, x.result = .ok a → Loads asked [] x.loader (next x.loader a) fun m b =>
      GoesOn asked x.loader m → Good x.loader a → Best m b) :
    Loads asked own l (x.andThen next) Best := by
  rw [← List.append_nil own]
  exact hx.andThen fun _ => hnext

end

/-- The settings that come of loading a file match the schema if all loads of the file asked for
it. -/
lemma loadAt_loads :
    Loads asked (if o.useCache then [⟨disk.resolve p, o.schemaToCheck⟩] else []) l
      (l.loadAt disk p o) fun m r => m.Accepts o.schemaToCheck r.settings := by
  rw [loadAt]
  cases hkept : l.remembered? disk p o with
  | some r =>
    refine ⟨fun _ => .refl, fun _ hvouched hagreed r' h => ?_⟩
    cases h
    refine accepts_of_remembered hvouched (fun hcache => ?_) hkept
    exact hagreed ⟨disk.resolve p, o.schemaToCheck⟩ (by simp [hcache])
  | none =>
    have hmem (hasked : (if o.useCache then [(⟨disk.resolve p, o.schemaToCheck⟩ : Ask)] else []) ⊆
        asked) (hcache : o.useCache = true) : ⟨disk.resolve p, o.schemaToCheck⟩ ∈ asked :=
      hasked (by simp [hcache])
    exact ⟨fun hasked => (readAt_spec (hmem hasked)).1,
      fun hasked _ _ => (readAt_spec (hmem hasked)).2⟩

/-- The same for a file that is found first. -/
lemma loadPath_loads (file : Path) (text : String) :
    Loads asked (if o.useCache then l.asksAt disk [file] o.schemaToCheck else []) l
      (l.loadPath disk file text o) fun m r => m.Accepts o.schemaToCheck r.settings := by
  rw [loadPath]
  cases hfound : l.locate disk file with
  | none => exact .error
  | some p =>
    have hasks : l.asksAt disk [file] o.schemaToCheck = [⟨disk.resolve p, o.schemaToCheck⟩] := by
      simp [asksAt, hfound]
    rw [hasks]
    exact loadAt_loads

/-- The same for a load with a schema. -/
lemma loadChecked_loads {name : String}
    (hname : (LoadOptions.checked name).schemaToCheck = some name) (file : Path) (text : String) :
    Loads asked (l.asksAt disk [file] (some name)) l (l.loadPath disk file text (.checked name))
      fun m r => m.Accepts (some name) r.settings := by
  have hload : Loads asked _ l (l.loadPath disk file text (.checked name)) _ :=
    loadPath_loads file text
  rw [hname] at hload
  exact hload

/-! ### The files of a configuration -/

lemma loadBase_loads :
    Loads asked (l.asksAt disk (l.basePath? disk).toList (some Bundled.baseName)) l
      (l.loadBase disk) fun m settings =>
        l.basePath? disk = none ∧ settings = [] ∨ m.Accepts (some Bundled.baseName) settings := by
  rw [loadBase]
  cases l.basePath? disk with
  | none => exact .ok (.inl ⟨rfl, rfl⟩)
  | some p =>
    exact .map ((loadChecked_loads rfl p p.text).imp fun _ _ => .inr)

/-- The overlay comes of settings that match the schema for overlays, by putting values in the place
of references. -/
def Expanded (l : Loader) (vars : Variables) (paths : List Path) (e : String × Entries) : Prop :=
  ∃ p ∈ paths, ∃ settings, e.1 = p.stem ∧ l.Accepts (some Bundled.overlayName) settings ∧
    Expand.valueEntries vars p.text settings = .ok e.2

lemma Expanded.mono {vars : Variables} {paths more : List Path} {e : String × Entries}
    (h : l.Expanded vars paths e) (hgoes : GoesOn asked l m) (hsub : paths ⊆ more) :
    m.Expanded vars more e := by
  obtain ⟨p, hp, settings, hname, haccepts, hvalues⟩ := h
  exact ⟨p, hsub hp, settings, hname, hgoes.accepts haccepts, hvalues⟩

lemma loadOverlay_loads (vars : Variables) :
    Loads asked (l.asksAt disk [p] (some Bundled.overlayName)) l (l.loadOverlay disk vars p)
      fun m overlay => m.Expanded vars [p] (p.stem, overlay) := by
  rw [loadOverlay]
  refine (loadChecked_loads rfl p p.text).close fun r _ => ?_
  refine ⟨fun _ => .refl, fun _ _ _ overlay h _ haccepts => ?_⟩
  exact ⟨p, List.mem_singleton_self p, r.settings, rfl, haccepts, h⟩

/-- Every overlay is the one of a path, or it was there before. -/
lemma loadOverlaysAt_loads (vars : Variables) (loaded : Overlays) (paths : List Path) :
    Loads asked (l.asksAt disk paths (some Bundled.overlayName)) l
      (l.loadOverlaysAt disk vars loaded paths) fun m overlays =>
        ∀ e ∈ overlays, e ∈ loaded ∨ m.Expanded vars paths e := by
  induction paths generalizing l loaded with
  | nil => exact .ok fun e he => .inl he
  | cons p paths ih =>
    rw [asksAt_cons, loadOverlaysAt]
    split_ifs with hrepeated
    · exact .error
    · refine (loadOverlay_loads vars).andThen fun hgoes overlay _ => ?_
      rw [← asksAt_congr hgoes.directory]
      have hrest := ih (l := (l.loadOverlay disk vars p).loader) (loaded ++ [(p.stem, overlay)])
      refine ⟨hrest.goesOn, fun hasked hvouched hagreed overlays h hgoesOn hoverlay e he => ?_⟩
      rcases hrest.good hasked hvouched hagreed overlays h e he with he | he
      · rcases List.mem_append.1 he with he | he
        · exact .inl he
        · rw [List.mem_singleton.1 he]
          exact .inr (hoverlay.mono hgoesOn (by simp))
      · exact .inr (he.mono (GoesOn.refl : GoesOn asked _ _) (List.subset_cons_self _ _))

lemma loadOverlays_loads {host : Host} :
    Loads asked (l.asksAt host.disk (l.overlayPaths host.disk) (some Bundled.overlayName)) l
      (l.loadOverlays host) fun m overlays =>
        ∃ vars, ∀ e ∈ overlays, m.Expanded vars (l.overlayPaths host.disk) e := by
  rw [loadOverlays]
  split_ifs with hthere
  · cases Variables.gather host.disk host.processVariables l.variablesFile? l.variables? with
    | error e => exact .error
    | ok gathered =>
      refine .relog ((loadOverlaysAt_loads gathered.1 [] _).close fun overlays _ => .ok ?_)
      exact fun _ hoverlays =>
        ⟨gathered.1, fun e he => (hoverlays e he).resolve_left List.not_mem_nil⟩
  · exact .ok ⟨[], fun e he => nomatch he⟩

/-! ### Runs -/

lemma resolve_loads {host : Host} {name : String} :
    Loads asked (l.asks host.disk (.resolve name)) l (l.resolve host name) fun _ _ => True := by
  rw [resolve]
  refine .relog (loadBase_loads.andThen fun hgoes base _ => ?_)
  rw [← asksAt_congr hgoes.directory, ← overlayPaths_congr hgoes.directory]
  refine loadOverlays_loads.close fun overlays _ => ?_
  cases Overlays.resolve name base overlays with
  | error e => exact .error
  | ok c => exact .ok fun _ _ _ _ => trivial

/-- Every call keeps the account of what is kept. -/
lemma goesOn_perform {host : Host} {a : Action} (hasked : l.asks host.disk a ⊆ asked) :
    GoesOn asked l (l.perform host a).loader := by
  cases a with
  | load file o => exact (loadPath_loads (.ofText file) file).goesOn hasked
  | loadBase => exact loadBase_loads.goesOn hasked
  | loadOverlays => exact loadOverlays_loads.goesOn hasked
  | resolve name => exact resolve_loads.goesOn hasked
  | clearCache => exact ⟨rfl, id, fun _ e he => nomatch he⟩
  | available | change disk => exact .refl

/-- What the calls of a run have asked for. -/
def asksOf (l : Loader) (calls : List (Host × Action × Loading Answer)) : List Ask :=
  calls.flatMap fun e => l.asks e.1.disk e.2.1

lemma asksOf_congr (h : m.directory = l.directory)
    (calls : List (Host × Action × Loading Answer)) : m.asksOf calls = l.asksOf calls := by
  simp only [asksOf, asks_congr h]

/-- Every call in a run finds a loader that the calls before it have left. -/
lemma goesOn_run {host h : Host} {actions : List Action} {a : Action} {x : Loading Answer}
    {past future : List (Host × Action × Loading Answer)}
    (hrun : l.run host actions = past ++ (h, a, x) :: future) :
    ∃ m, x = m.perform h a ∧ ∀ asked, l.asksOf past ⊆ asked → GoesOn asked l m := by
  induction actions generalizing l host past with
  | nil => simp [run] at hrun
  | cons b actions ih =>
    rw [run] at hrun
    cases past with
    | nil =>
      simp only [List.nil_append, List.cons.injEq, Prod.mk.injEq] at hrun
      obtain ⟨⟨rfl, rfl, rfl⟩, -⟩ := hrun
      exact ⟨l, rfl, fun _ _ => .refl⟩
    | cons call past =>
      simp only [List.cons_append, List.cons.injEq] at hrun
      obtain ⟨rfl, hrest⟩ := hrun
      obtain ⟨m, hx, hgoes⟩ := ih hrest
      refine ⟨m, hx, fun asked hasked => ?_⟩
      obtain ⟨hown, hothers⟩ := List.append_subset.1 hasked
      have hfirst : GoesOn asked l (l.perform host b).loader := goesOn_perform hown
      refine hfirst.trans (hgoes asked ?_)
      rw [asksOf_congr hfirst.directory]
      exact hothers

lemma Agreed.append {place : Location} {own : List Ask} (h : Agreed asked place schema?)
    (hown : ∀ a ∈ own, a.schema? = schema?) : Agreed (asked ++ own) place schema? := by
  intro a ha hplace
  rcases List.mem_append.1 ha with ha | ha
  · exact h a ha hplace
  · exact hown a ha

lemma schema?_of_mem_asksAt {a : Ask} {files : List Path}
    (h : a ∈ l.asksAt disk files schema?) : a.schema? = schema? := by
  obtain ⟨_, _, _, _, rfl⟩ := mem_asksAt.1 h
  rfl

/-- Settings that a call of a run returns match the schema that the call asks for, if all calls
before it have asked for the same schema where they asked for the same file. -/
theorem run_validated {host h : Host} {actions : List Action} {a : Action} {x : Loading Answer}
    {past future : List (Host × Action × Loading Answer)} (hnew : l.kept = [])
    (hrun : l.run host actions = past ++ (h, a, x) :: future)
    (hagreed : ∀ b ∈ l.asks h.disk a, Agreed (l.asksOf past) b.place b.schema?) :
    (∀ file o r, a = .load file o → x.result = .ok (.reading r) →
      x.loader.Accepts o.schemaToCheck r.settings) ∧
    (∀ settings, a = .loadBase → x.result = .ok (.base settings) →
      l.basePath? h.disk = none ∧ settings = [] ∨
        x.loader.Accepts (some Bundled.baseName) settings) ∧
    (∀ overlays, a = .loadOverlays → x.result = .ok (.overlays overlays) →
      ∃ vars, ∀ e ∈ overlays, x.loader.Expanded vars (l.overlayPaths h.disk) e) := by
  obtain ⟨m, rfl, hgoes⟩ := goesOn_run hrun
  -- the calls before account for what is kept, and this call for what it keeps on its way
  set asked := l.asksOf past ++ l.asks h.disk a with hasked
  have hm : GoesOn asked l m := hgoes asked (List.subset_append_left _ _)
  have hvouched : m.Vouched asked := hm.vouched fun e he => by simp [hnew] at he
  have hown : m.asks h.disk a ⊆ asked := by
    rw [asks_congr hm.directory]
    exact List.subset_append_right _ _
  have hagreedOwn {schema? : Option String} (hsame : ∀ b ∈ l.asks h.disk a, b.schema? = schema?) :
      ∀ b ∈ m.asks h.disk a, Agreed asked b.place b.schema? := by
    intro b hb
    rw [asks_congr hm.directory] at hb
    refine (hagreed b hb).append fun c hc => ?_
    rw [hsame b hb, hsame c hc]
  refine ⟨?_, ?_, ?_⟩
  · rintro file o r rfl hr
    obtain ⟨_, hread, ⟨⟩⟩ := Loading.map_eq_ok.1 hr
    have hsame : ∀ b ∈ l.asks h.disk (.load file o), b.schema? = o.schemaToCheck := by
      intro b hb
      rw [asks] at hb
      split_ifs at hb
      · exact schema?_of_mem_asksAt hb
      · cases hb
    exact (loadPath_loads (.ofText file) file).good hown hvouched (hagreedOwn hsame) r hread
  · rintro settings rfl hsettings
    obtain ⟨_, hread, ⟨⟩⟩ := Loading.map_eq_ok.1 hsettings
    rw [← basePath?_congr hm.directory]
    exact loadBase_loads.good hown hvouched (hagreedOwn fun b hb => schema?_of_mem_asksAt hb)
      settings hread
  · rintro overlays rfl hoverlays
    obtain ⟨_, hread, ⟨⟩⟩ := Loading.map_eq_ok.1 hoverlays
    rw [← overlayPaths_congr hm.directory]
    exact loadOverlays_loads.good hown hvouched (hagreedOwn fun b hb => schema?_of_mem_asksAt hb)
      overlays hread

lemma remembered?_of_readAt {r : Reading} (hcache : o.useCache = true)
    (h : (l.readAt disk p o).result = .ok r) :
    (l.readAt disk p o).loader.remembered? disk p o = some r := by
  unfold readAt at h ⊢
  cases hread : SettingsFile.read disk p with
  | error e => simp [hread] at h
  | ok settings =>
    simp only [hread, Loading.andThen] at h ⊢
    split at h
    · cases h
    · cases h
      simp [hcache, remembered?, keep]

lemma remembered?_of_loadAt {r : Reading} (hcache : o.useCache = true)
    (h : (l.loadAt disk p o).result = .ok r) :
    (l.loadAt disk p o).loader.remembered? disk p o = some r := by
  rw [loadAt] at h ⊢
  cases hbefore : l.remembered? disk p o with
  | some r' =>
    rw [hbefore] at h
    cases h
    exact hbefore
  | none =>
    rw [hbefore] at h
    exact remembered?_of_readAt hcache h

lemma load_eq_loadAt {file : String} (h : l.locate disk (.ofText file) = some p) :
    l.load disk file o = l.loadAt disk p o := by
  rw [load, loadPath, h]

/-- A load that goes to what is kept gives what it gave before. -/
lemma load_again {file : String} {r : Reading} (hcache : o.useCache = true)
    (h : (l.load disk file o).result = .ok r) :
    ((l.load disk file o).loader.load disk file o).result = .ok r := by
  cases hfound : l.locate disk (.ofText file) with
  | none => simp [load, loadPath, hfound] at h
  | some p =>
    rw [load_eq_loadAt hfound] at h ⊢
    have hgoes : GoesOn _ l (l.loadAt disk p o).loader := loadAt_loads.goesOn (List.Subset.refl _)
    have hagain : (l.loadAt disk p o).loader.locate disk (.ofText file) = some p := by
      rw [locate_congr hgoes.directory, hfound]
    have hkept := remembered?_of_loadAt hcache h
    generalize (l.loadAt disk p o).loader = m at hagain hkept ⊢
    rw [load_eq_loadAt hagain, loadAt, hkept]

/-- Two calls, of which the first one loads a file. -/
lemma run_load (l : Loader) (host : Host) (file : String) (o : LoadOptions) (a : Action) :
    l.run host [.load file o, a] =
      [(host, .load file o, l.perform host (.load file o))] ++
        (host, a, (l.perform host (.load file o)).loader.perform host a) :: [] := rfl

lemma perform_load_again {host : Host} {file : String} {r : Reading} (hcache : o.useCache = true)
    (h : (l.load host.disk file o).result = .ok r) :
    ((l.perform host (.load file o)).loader.perform host (.load file o)).result =
      .ok (.reading r) :=
  Loading.map_eq_ok.2 ⟨r, load_again hcache h, rfl⟩

lemma perform_load_loadBase {host : Host} {file : String}
    (h : ((l.load host.disk file o).loader.loadBase host.disk).result = .ok settings) :
    ((l.perform host (.load file o)).loader.perform host .loadBase).result = .ok (.base settings) :=
  Loading.map_eq_ok.2 ⟨settings, h, rfl⟩

end Loader

/-! ### A project with a schema of its own -/

namespace Timed

/-- A project whose schema for base files asks for a timeout. The base file has none. -/
def host : Host where
  disk := ⟨[(["config", "base.json"], .ok "\x7b\x7d"),
    (["config", "timed.json"], .ok "\x7b\"timeout\": 5\x7d"),
    (["schemas", "base_schema.json"], .ok "\x7b\"required\": [\"timeout\"]\x7d")], [], []⟩
  processVariables := []

/-- The loader of the project. -/
def loader : Loader := .new (.ofText "config") (some (.ofText "schemas")) none none

/-- The schema of the project. -/
def schema : CompiledSchema where
  document := .map [(.str "required", .list [.str "timeout"])]
  schema := .rules [.required ["timeout"]]

lemma ofValue_document : Schema.ofValue schema.document = .ok schema.schema := by
  have hkeyword : Schema.keywordOf (.str "required") (.list [.str "timeout"]) =
      .ok ⟨"required", .list [.str "timeout"], []⟩ :=
    Schema.keywordOf_of_shape .texts (by decide) (by decide +kernel) (by decide +kernel)
  simp only [schema, Schema.ofValue, Schema.keywords, hkeyword]
  rfl

/-- Whether the document of the schema has been read. -/
def isDocument : Except ConfigError Value → Bool
  | .ok (.map [(.str "required", .list [.scalar (.str "timeout")])]) => true
  | _ => false

lemma eq_of_isDocument {read : Except ConfigError Value} (h : isDocument read = true) :
    read = .ok schema.document := by
  unfold isDocument at h
  split at h
  · rfl
  · contradiction

lemma readDocument_eq :
    loader.registry.readDocument host.disk Bundled.baseName = .ok schema.document :=
  eq_of_isDocument (by decide +kernel)

lemma find_eq : (loader.registry.find host.disk Bundled.baseName).result = .ok schema := by
  have hnone : loader.registry.compiled.lookup Bundled.baseName = none := by decide
  rw [SchemaRegistry.find, hnone, SchemaRegistry.compile, readDocument_eq]
  simp only [bind, Except.bind, ofValue_document]
  rfl

/-- Whether settings are valid, if there are any. -/
def areValid? : Except ConfigError Entries → Option Bool
  | .ok settings => some (schema.schema.accepts (.map settings))
  | .error _ => none

lemma exists_of_areValid? {read : Except ConfigError Entries} {valid : Bool}
    (h : areValid? read = some valid) :
    ∃ settings, read = .ok settings ∧ schema.schema.accepts (.map settings) = valid := by
  cases read with
  | error e => cases h
  | ok settings => exact ⟨settings, rfl, Option.some.inj h⟩

/-- How files are loaded here. -/
def options : LoadOptions := .checked Bundled.baseName

/-- The timed settings are loaded with the schema. -/
lemma load_timed : ∃ r, (loader.load host.disk "timed.json" options).result = .ok r := by
  have hfound : loader.locate host.disk (.ofText "timed.json") =
      some (.ofText "config/timed.json") := by decide
  have hkept : loader.remembered? host.disk (.ofText "config/timed.json") options = none := by
    decide
  have hschema : options.schemaToCheck = some Bundled.baseName := by decide
  obtain ⟨settings, hread, hvalid⟩ : ∃ settings,
      SettingsFile.read host.disk (.ofText "config/timed.json") = .ok settings ∧
        schema.schema.accepts (.map settings) = true :=
    exists_of_areValid? (by decide +kernel)
  have hproblems := CompiledSchema.problems_eq_nil_iff.2 hvalid
  have hpassed (source : String) :
      ((loader.registry.find host.disk Bundled.baseName).result.bind fun c =>
        SchemaRegistry.check c Bundled.baseName source (.map settings)) = .ok () := by
    simp only [find_eq, Except.bind, SchemaRegistry.check, hproblems]
  rw [Loader.load_eq_loadAt hfound, Loader.loadAt, hkept]
  refine ⟨⟨0, settings⟩, ?_⟩
  simp only [Loader.readAt, hread, hschema, Loader.checkAny, Loader.check, Loading.andThen, hpassed]
  rfl

/-- The second of two loads with the schema gets what the first one has kept, and it matches. -/
theorem run_validated_timed :
    ∃ r x, loader.run host [.load "timed.json" options, .load "timed.json" options] =
        [(host, .load "timed.json" options, loader.perform host (.load "timed.json" options))] ++
          (host, .load "timed.json" options, x) :: [] ∧
      x.result = .ok (.reading r) ∧ x.loader.Accepts options.schemaToCheck r.settings := by
  obtain ⟨r, hfirst⟩ := load_timed
  have hresult := Loader.perform_load_again rfl hfirst
  have hrun := Loader.run_load loader host "timed.json" options (.load "timed.json" options)
  have hagreed : ∀ b ∈ loader.asks host.disk (.load "timed.json" options),
      ∀ a ∈ loader.asks host.disk (.load "timed.json" options),
        a.place = b.place → a.schema? = b.schema? := by decide
  obtain ⟨hvalid, -, -⟩ := Loader.run_validated rfl hrun fun b hb => by
    rw [Loader.asksOf, List.flatMap_singleton]
    exact hagreed b hb
  exact ⟨r, _, hrun, hresult, hvalid _ _ _ rfl hresult⟩

/-- What is missing of the settings can be told of. -/
lemma exists_problems {settings : Entries}
    (hinvalid : schema.schema.accepts (.map settings) = false) :
    ∃ line lines, schema.problems (.map settings) = .ok (line :: lines) := by
  have htold : ∀ x ∈ schema.schema.violations (.map settings), x.IsTold := by
    simp only [schema, Schema.violations, Schema.rulesViolations, Schema.ruleViolations,
      List.append_nil, List.forall_mem_map]
    exact fun _ _ => ⟨⟨_, rfl⟩, ⟨[], rfl⟩⟩
  obtain ⟨lines, hlines⟩ := CompiledSchema.exists_problems htold
  cases lines with
  | cons line lines => exact ⟨line, lines, hlines⟩
  | nil =>
    rw [CompiledSchema.problems_eq_nil_iff, hinvalid] at hlines
    contradiction

/-- A load of the base file without a schema is enough for the next load of the base settings to
return what violates the schema that they are checked against otherwise. -/
theorem loadBase_unchecked :
    ∃ x c settings, loader.run host [.load "base.json" ⟨none, true, true⟩, .loadBase] =
        [(host, .load "base.json" ⟨none, true, true⟩,
          loader.perform host (.load "base.json" ⟨none, true, true⟩))] ++
            (host, .loadBase, x) :: [] ∧
      x.result = .ok (.base settings) ∧
      (loader.registry.find host.disk Bundled.baseName).result = .ok c ∧
      ∃ line lines, c.problems (.map settings) = .ok (line :: lines) := by
  obtain ⟨settings, hloaded, hinvalid⟩ : ∃ settings,
      ((loader.load host.disk "base.json" ⟨none, true, true⟩).loader.loadBase host.disk).result =
        .ok settings ∧ schema.schema.accepts (.map settings) = false :=
    exists_of_areValid? (by decide +kernel)
  refine ⟨_, schema, settings, Loader.run_load loader host "base.json" ⟨none, true, true⟩ .loadBase,
    Loader.perform_load_loadBase hloaded, find_eq, ?_⟩
  exact exists_problems hinvalid

end Timed

end TaggedSuite
