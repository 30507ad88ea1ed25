import Mathlib.Data.List.DropRight
import TaggedSuite.Proofs.Config.Enumeration
import TaggedSuite.Proofs.Config.Twins

/-!
# What is kept between loads

All that a loader does comes down to single loads of files. What it keeps of a file is what the
first load that asked to keep it read since the loader was told to forget; later loads get this and
nothing else, whatever the file holds by then. A load that fails, or that neither wants nor leaves
anything kept, is as good as no load for all that come after it.
-/
namespace TaggedSuite

/-- The next piece of work does nothing to the loader. -/
lemma Loading.loader_andThen {α β : Type} {x : Loading α} {next : Loader → α → Loading β}
    (h : ∀ l a, (next l a).loader = l) : (x.andThen next).loader = x.loader := by
  rw [andThen]
  split
  · rfl
  · exact h _ _

/-- A look-up does not change what other look-ups in the same directory find. -/
lemma SchemaRegistry.find_find (r : SchemaRegistry) (disk : Disk) (name other : String) :
    ((r.find disk name).registry.find disk other).result = (r.find disk other).result := by
  cases hname : r.compiled.lookup name with
  | some c => simp only [find, hname]
  | none =>
    cases hcompile : r.compile disk name with
    | error e => simp only [find, hname, hcompile]
    | ok c =>
      by_cases hsame : other = name
      · subst hsame
        simp [find, hname, hcompile]
      · have hne : (other == name) = false := by simp [hsame]
        have hcompiled : compile { r with compiled := (name, c) :: r.compiled } disk other =
            r.compile disk other := rfl
        simp only [find, hname, hcompile, hcompiled, List.lookup_cons, hne]
        cases r.compiled.lookup other with
        | some d => rfl
        | none => cases r.compile disk other <;> rfl

namespace Loader

open Loading (Ends Twins)

/-! ### The loads of a run -/

/-- A load of a file, or the order to forget what was read. -/
inductive Event where
  | load (disk : Disk) (file : Path) (text : String) (o : LoadOptions)
  | clear

/-- The loader after an event. -/
def after (l : Loader) : Event → Loader
  | .load disk file text o => (l.loadPath disk file text o).loader
  | .clear => l.clearCache

/-- An event, and the loader that it finds. -/
structure Step where
  loader : Loader
  event : Event

/-- The steps that events make one after the other. -/
def steps (l : Loader) : List Event → List Step
  | [] => []
  | e :: rest => ⟨l, e⟩ :: (l.after e).steps rest

/-- The loads of base settings. -/
def baseEvents (l : Loader) (disk : Disk) : List Event :=
  (l.basePath? disk).toList.map fun p => .load disk p p.text (.checked Bundled.baseName)

/-- The loads of the overlays at paths after others. The first one that fails is the last one. -/
def overlayEventsAt (l : Loader) (disk : Disk) (vars : Variables) (loaded : Overlays) :
    List Path → List Event
  | [] => []
  | p :: rest =>
    if (loaded.lookup p.stem).isSome then []
    else
      let x := l.loadOverlay disk vars p
      .load disk p p.text (.checked Bundled.overlayName) ::
        match x.result with
        | .error _ => []
        | .ok overlay => x.loader.overlayEventsAt disk vars (loaded ++ [(p.stem, overlay)]) rest

/-- The loads of the overlays of all environments. -/
def overlayEvents (l : Loader) (host : Host) : List Event :=
  if host.disk.isDirectory l.environments then
    match Variables.gather host.disk host.processVariables l.variablesFile? l.variables? with
    | .error _ => []
    | .ok (vars, _) => l.overlayEventsAt host.disk vars [] (l.overlayPaths host.disk)
  else []

/-- The events of a call. -/
def events (l : Loader) (host : Host) : Action → List Event
  | .load file o => [.load host.disk (.ofText file) file o]
  | .loadBase => l.baseEvents host.disk
  | .loadOverlays => l.overlayEvents host
  | .resolve _ =>
    let x := l.loadBase host.disk
    l.baseEvents host.disk ++
      match x.result with
      | .error _ => []
      | .ok _ => x.loader.overlayEvents host
  | .clearCache => [.clear]
  | .available | .change _ => []

/-- The steps of a run: those of each call, from the loader that the calls before it have left. -/
def history (l : Loader) (host : Host) : List Action → List Step
  | [] => []
  | a :: rest =>
    l.steps (l.events host a) ++ (l.perform host a).loader.history (hostAfter host a) rest

/-- The steps since the loader was last told to forget. -/
def sinceClear (past : List Step) : List Step :=
  past.rtakeWhile fun s => match s.event with
    | .load .. => true
    | .clear => false

/-- The step loads the file at a path and gives a reading. -/
def Step.Gives (s : Step) (disk : Disk) (p : Path) (o : LoadOptions) (r : Reading) : Prop :=
  ∃ file text, s.event = .load disk file text o ∧ s.loader.locate disk file = some p ∧
    (s.loader.loadPath disk file text o).result = .ok r

/-- The step loads the file at a place, which may be kept or come from what is kept, and gives a
reading. -/
def Step.Gets (s : Step) (place : Location) (r : Reading) : Prop :=
  ∃ disk p o, s.Gives disk p o r ∧ o.useCache = true ∧ disk.resolve p = place

variable {l m : Loader} {disk : Disk} {host : Host} {p file : Path} {text : String}
  {o : LoadOptions} {s : Step} {place : Location} {r r' : Reading}

/-! ### A run is one row of steps -/

lemma steps_append (es fs : List Event) :
    l.steps (es ++ fs) = l.steps es ++ (es.foldl after l).steps fs := by
  induction es generalizing l with
  | nil => rfl
  | cons e es ih => exact congrArg (_ :: ·) ih

lemma foldl_baseEvents (disk : Disk) :
    (l.baseEvents disk).foldl after l = (l.loadBase disk).loader := by
  rw [baseEvents, loadBase]
  cases l.basePath? disk <;> rfl

lemma loader_loadOverlay (disk : Disk) (vars : Variables) (p : Path) :
    (l.loadOverlay disk vars p).loader =
      l.after (.load disk p p.text (.checked Bundled.overlayName)) :=
  Loading.loader_andThen fun _ _ => rfl

/-- The loads of the files leave the loader that loading the overlays leaves. -/
lemma foldl_overlayEventsAt (disk : Disk) (vars : Variables) (loaded : Overlays)
    (paths : List Path) :
    (l.overlayEventsAt disk vars loaded paths).foldl after l =
      (l.loadOverlaysAt disk vars loaded paths).loader := by
  induction paths generalizing l loaded with
  | nil => rfl
  | cons p paths ih =>
    rw [overlayEventsAt, loadOverlaysAt]
    split_ifs
    · rfl
    · rw [List.foldl_cons, ← loader_loadOverlay disk vars p, Loading.andThen]
      cases (l.loadOverlay disk vars p).result with
      | error e => rfl
      | ok overlay => exact ih _

lemma foldl_overlayEvents (host : Host) :
    (l.overlayEvents host).foldl after l = (l.loadOverlays host).loader := by
  rw [overlayEvents, loadOverlays]
  split_ifs
  · cases Variables.gather host.disk host.processVariables l.variablesFile? l.variables? with
    | error f => rfl
    | ok gathered =>
      refine (foldl_overlayEventsAt host.disk gathered.1 [] _).trans ?_
      exact (Loading.loader_andThen fun _ _ => rfl).symm
  · rfl

/-- The events of a call leave the loader that the call leaves. -/
lemma foldl_events (host : Host) (a : Action) :
    (l.events host a).foldl after l = (l.perform host a).loader := by
  cases a with
  | load file o => rfl
  | loadBase => exact foldl_baseEvents host.disk
  | loadOverlays => exact foldl_overlayEvents host
  | resolve name =>
    rw [events, List.foldl_append, foldl_baseEvents]
    change _ = (l.resolve host name).loader
    rw [resolve, Loading.andThen]
    cases (l.loadBase host.disk).result with
    | error e => rfl
    | ok base =>
      refine (foldl_overlayEvents host).trans (Loading.loader_andThen fun m overlays => ?_).symm
      cases Overlays.resolve name base overlays <;> rfl
  | clearCache => rfl
  | available | change disk => rfl

/-- What calls do to the loader is done by single loads. -/
lemma exists_history_eq (l : Loader) (host : Host) (actions : List Action) :
    ∃ es, l.history host actions = l.steps es := by
  induction actions generalizing l host with
  | nil => exact ⟨[], rfl⟩
  | cons a actions ih =>
    obtain ⟨es, hes⟩ := ih (l.perform host a).loader (hostAfter host a)
    refine ⟨l.events host a ++ es, ?_⟩
    rw [history, hes, steps_append, foldl_events]

/-! ### What is kept -/

lemma Step.gives_load :
    Step.Gives ⟨l, .load disk file text o⟩ disk p o r ↔
      l.locate disk file = some p ∧ (l.loadAt disk p o).result = .ok r := by
  constructor
  · rintro ⟨file, text, hevent, hlocate, hresult⟩
    cases hevent
    rw [loadPath, hlocate] at hresult
    exact ⟨hlocate, hresult⟩
  · rintro ⟨hlocate, hresult⟩
    refine ⟨file, text, rfl, hlocate, ?_⟩
    rw [loadPath, hlocate]
    exact hresult

lemma Step.gets_load :
    Step.Gets ⟨l, .load disk file text o⟩ place r ↔
      ∃ p, l.locate disk file = some p ∧ (l.loadAt disk p o).result = .ok r ∧
        o.useCache = true ∧ disk.resolve p = place := by
  constructor
  · rintro ⟨disk, p, o, hgives, hcache, hplace⟩
    obtain ⟨_, _, hevent, -, -⟩ := id hgives
    cases hevent
    obtain ⟨hlocate, hresult⟩ := gives_load.1 hgives
    exact ⟨p, hlocate, hresult, hcache, hplace⟩
  · rintro ⟨p, hlocate, hresult, hcache, hplace⟩
    exact ⟨disk, p, o, gives_load.2 ⟨hlocate, hresult⟩, hcache, hplace⟩

lemma kept_checkAny (schema? : Option String) (source : String) (settings : Entries) :
    (l.checkAny disk schema? source settings).loader.kept = l.kept := by
  cases schema? <;> rfl

/-- A file that is read holds what is returned, and this is kept if that is asked for. -/
lemma readAt_kept :
    (∀ r, (l.readAt disk p o).result = .ok r → SettingsFile.read disk p = .ok r.settings ∧
      (l.readAt disk p o).loader.kept =
        if o.useCache then (disk.resolve p, r) :: l.kept else l.kept) ∧
    ∀ e, (l.readAt disk p o).result = .error e → (l.readAt disk p o).loader.kept = l.kept := by
  unfold readAt
  cases SettingsFile.read disk p with
  | error e => exact ⟨fun r h => by contradiction, fun _ _ => rfl⟩
  | ok settings =>
    have hkept : (checkAny { l with readings := l.readings + 1 } disk o.schemaToCheck p.text
        settings).loader.kept = l.kept := kept_checkAny _ _ _
    simp only [Loading.andThen]
    split
    · exact ⟨fun r h => by contradiction, fun _ _ => hkept⟩
    · refine ⟨fun r h => ?_, fun e h => by contradiction⟩
      cases h
      refine ⟨rfl, ?_⟩
      cases o.useCache with
      | false => exact hkept
      | true => exact congrArg (_ :: ·) hkept

lemma remembered?_of_useCache (h : o.useCache = true) :
    l.remembered? disk p o = l.kept.lookup (disk.resolve p) := if_pos h

/-- After a load, what it has got is kept besides what was kept before. -/
lemma lookup_loadAt :
    (l.loadAt disk p o).loader.kept.lookup place = some r ↔
      l.kept.lookup place = some r ∨
        (l.loadAt disk p o).result = .ok r ∧ o.useCache = true ∧ disk.resolve p = place := by
  rw [loadAt]
  cases hkept : l.remembered? disk p o with
  | some r' =>
    refine ⟨.inl, ?_⟩
    rintro (h | ⟨hr, hcache, rfl⟩)
    · exact h
    · cases hr
      rw [← remembered?_of_useCache hcache]
      exact hkept
  | none =>
    obtain ⟨hread, hfailed⟩ := @readAt_kept l disk p o
    dsimp only
    cases hresult : (l.readAt disk p o).result with
    | error e => simp [hfailed e hresult]
    | ok r' =>
      rw [(hread r' hresult).2]
      cases hcache : o.useCache with
      | false => simp
      | true =>
        have hnew : l.kept.lookup (disk.resolve p) = none :=
          (remembered?_of_useCache hcache).symm.trans hkept
        by_cases hplace : place = disk.resolve p
        · subst hplace
          simp [hnew]
        · have hne : (place == disk.resolve p) = false := by simp [hplace]
          simp [List.lookup_cons, hne, Ne.symm hplace]

/-- What a load gives is what is kept of the file, and if there is nothing that will do it is what
the file holds. -/
lemma loadAt_gives (h : (l.loadAt disk p o).result = .ok r) :
    l.remembered? disk p o = some r ∨
      l.remembered? disk p o = none ∧ SettingsFile.read disk p = .ok r.settings := by
  rw [loadAt] at h
  cases hkept : l.remembered? disk p o with
  | some r' =>
    rw [hkept] at h
    cases h
    exact .inl rfl
  | none =>
    rw [hkept] at h
    exact .inr ⟨rfl, (readAt_kept.1 r h).1⟩

lemma sinceClear_load (past : List Step) :
    sinceClear (past ++ [⟨l, .load disk file text o⟩]) =
      sinceClear past ++ [⟨l, .load disk file text o⟩] := by
  rw [sinceClear, List.rtakeWhile_concat, if_pos rfl, sinceClear]

lemma sinceClear_clear (past : List Step) : sinceClear (past ++ [⟨l, .clear⟩]) = [] := by
  rw [sinceClear, List.rtakeWhile_concat, if_neg nofun]

/-- What is kept of a file is what the steps have got from it since the last order to forget. -/
def KeptOf (past : List Step) (l : Loader) : Prop :=
  ∀ place r, l.kept.lookup place = some r ↔ ∃ s ∈ sinceClear past, s.Gets place r

/-- One step. -/
lemma KeptOf.after {past : List Step} (h : KeptOf past l) (e : Event) :
    KeptOf (past ++ [⟨l, e⟩]) (l.after e) := by
  intro place r
  cases e with
  | clear =>
    rw [sinceClear_clear]
    simp [Loader.after, clearCache]
  | load disk file text o =>
    have hstep : (l.after (.load disk file text o)).kept.lookup place = some r ↔
        l.kept.lookup place = some r ∨ Step.Gets ⟨l, .load disk file text o⟩ place r := by
      rw [Step.gets_load, Loader.after, loadPath]
      cases l.locate disk file with
      | none => simp
      | some p => simpa using lookup_loadAt
    rw [hstep, h place r, sinceClear_load]
    simp [or_and_right, exists_or]

/-- Along a run, what is kept is of the loads so far. -/
lemma KeptOf.steps {older past future : List Step} {es : List Event} (h : KeptOf older l)
    (hsteps : l.steps es = past ++ s :: future) : KeptOf (older ++ past) s.loader := by
  induction es generalizing l older past with
  | nil => simp [Loader.steps] at hsteps
  | cons e es ih =>
    rw [Loader.steps] at hsteps
    cases past with
    | nil =>
      obtain ⟨rfl, -⟩ := List.cons.inj hsteps
      rwa [List.append_nil]
    | cons first past =>
      obtain ⟨rfl, hrest⟩ := List.cons.inj hsteps
      have hlast := ih (h.after e) hrest
      rwa [List.append_assoc] at hlast

/-! ### Loaders that do the same -/

/-- The second loader looks for the same files and finds the same schemas. -/
structure Resembles (disk : Disk) (l m : Loader) : Prop where
  directory : m.directory = l.directory
  variablesFile? : m.variablesFile? = l.variablesFile?
  variables? : m.variables? = l.variables?
  schemas : ∀ name, (m.registry.find disk name).result = (l.registry.find disk name).result

/-- It has also kept the same settings. -/
structure Matches (disk : Disk) (l m : Loader) : Prop extends Resembles disk l m where
  kept : ∀ place, (m.kept.lookup place).map Reading.settings =
    (l.kept.lookup place).map Reading.settings

lemma Resembles.refl : Resembles disk l l := ⟨rfl, rfl, rfl, fun _ => rfl⟩

lemma Resembles.check (h : Resembles disk l m) (name source : String) (settings : Entries) :
    Resembles disk l (m.check disk name source settings).loader := by
  refine ⟨h.directory, h.variablesFile?, h.variables?, fun other => ?_⟩
  exact (SchemaRegistry.find_find _ disk name other).trans (h.schemas other)

lemma readAt_resembles : Resembles disk l (l.readAt disk p o).loader := by
  have hends : Ends (Resembles disk l) (fun _ => True)
      (fun r => SettingsFile.read disk p = .ok r.settings ∧ True) (l.readAt disk p o) := by
    apply readAt_ends (fun _ => True) .refl fun _ _ => trivial
    · intro settings _
      have hcounted : Resembles disk l { l with readings := l.readings + 1 } :=
        ⟨rfl, rfl, rfl, fun _ => rfl⟩
      cases o.schemaToCheck with
      | none => exact .ofOk hcounted trivial
      | some name =>
        exact .ofResult (hcounted.check name p.text settings) (fun _ _ => trivial)
          fun _ _ => trivial
    · intro n settings hn _ _
      exact ⟨hn.directory, hn.variablesFile?, hn.variables?, hn.schemas⟩
  exact hends.inv

lemma loadPath_resembles (file : Path) (text : String) :
    Resembles disk l (l.loadPath disk file text o).loader := by
  rw [loadPath]
  cases l.locate disk file with
  | none => exact .refl
  | some p =>
    dsimp only
    rw [loadAt]
    cases l.remembered? disk p o with
    | some r => exact .refl
    | none => exact readAt_resembles

/-- A load that fails, or one that does not ask to keep anything, leaves what is kept. -/
lemma kept_loadPath
    (h : o.useCache = false ∨ ∃ e, (l.loadPath disk file text o).result = .error e) :
    (l.loadPath disk file text o).loader.kept = l.kept := by
  rw [loadPath] at h ⊢
  cases hfound : l.locate disk file with
  | none => rfl
  | some p =>
    rw [hfound] at h
    dsimp only at h ⊢
    rw [loadAt] at h ⊢
    cases hkept : l.remembered? disk p o with
    | some r => rfl
    | none =>
      rw [hkept] at h
      dsimp only at h ⊢
      obtain ⟨hread, hfailed⟩ := @readAt_kept l disk p o
      cases hresult : (l.readAt disk p o).result with
      | error e => exact hfailed e hresult
      | ok r =>
        obtain hcache | ⟨e, he⟩ := h
        · simpa [hcache] using (hread r hresult).2
        · rw [hresult] at he
          cases he

/-- Loaders that match are in step as long as the files stay as they are. -/
def steady (disk : Disk) : Likeness := ⟨Matches disk, Eq, False⟩

/-- The settings that were read are the same. -/
def SameSettings (r r' : Reading) : Prop := r'.settings = r.settings

lemma checkAny_twins (h : Matches disk l m) (schema? : Option String) (source : String)
    (settings : Entries) :
    Twins (steady disk) Eq (l.checkAny disk schema? source settings)
      (m.checkAny disk schema? source settings) := by
  cases schema? with
  | none => exact .of_ok h rfl
  | some name =>
    refine ⟨⟨?_, h.kept⟩, False.elim, .of_eq (fun _ => rfl) ?_⟩
    · obtain ⟨hdirectory, hvariablesFile, hvariables, hschemas⟩ := h.toResembles.check name source
        settings
      refine ⟨hdirectory, hvariablesFile, hvariables, fun other => ?_⟩
      exact (hschemas other).trans (SchemaRegistry.find_find _ disk name other).symm
    · exact congrArg
        (fun found => found.bind fun c => SchemaRegistry.check c name source (.map settings))
        (h.schemas name)

lemma readAt_twins (h : Matches disk l m) :
    Twins (steady disk) SameSettings (l.readAt disk p o) (m.readAt disk p o) := by
  unfold readAt
  cases SettingsFile.read disk p with
  | error e => exact .of_error h rfl
  | ok settings =>
    have hcounted : Matches disk { l with readings := l.readings + 1 }
        { m with readings := m.readings + 1 } :=
      ⟨⟨h.directory, h.variablesFile?, h.variables?, h.schemas⟩, h.kept⟩
    refine (checkAny_twins hcounted _ _ _).andThen fun n k _ _ hnk _ => .of_ok ?_ rfl
    split_ifs
    · refine ⟨⟨hnk.directory, hnk.variablesFile?, hnk.variables?, hnk.schemas⟩, fun place => ?_⟩
      simp only [keep, List.lookup_cons]
      cases place == disk.resolve p with
      | true => rfl
      | false => exact hnk.kept place
    · exact hnk

lemma loadPath_twins (h : Matches disk l m) (file : Path) (text : String) :
    Twins (steady disk) SameSettings (l.loadPath disk file text o)
      (m.loadPath disk file text o) := by
  refine twins_loadPath h (fun _ => rfl) (locate_congr h.directory disk) h.directory (fun p => ?_)
    (fun _ => readAt_twins h) file text
  have hkept := h.kept (disk.resolve p)
  rw [remembered?, remembered?]
  split_ifs
  · cases hl : l.kept.lookup (disk.resolve p) with
    | none =>
      rw [hl, Option.map_none, Option.map_eq_none_iff] at hkept
      rw [hkept]
      exact .none
    | some r =>
      rw [hl, Option.map_some, Option.map_eq_some_iff] at hkept
      obtain ⟨r', hr', hsettings⟩ := hkept
      rw [hr']
      exact .some hsettings
  · exact .none

lemma paired_steady (host : Host) : Paired (steady host.disk) Eq host host where
  directory h := h.directory
  gather h := by rw [h.variablesFile?, h.variables?]
  isFile _ := rfl
  isDirectory _ := rfl
  names _ := rfl
  errors _ := rfl
  empty := rfl
  load p text _ _ h := by
    obtain ⟨hloader, hlog, hresult⟩ := loadPath_twins h p text
    exact ⟨hloader, hlog, hresult.imp fun _ _ hsettings => hsettings.symm⟩
  expand vars source h := .of_eq (fun _ => rfl) (by rw [h])

lemma OverlaysOf.eq {overlays overlays' : Overlays} (h : OverlaysOf Eq overlays overlays') :
    overlays' = overlays := by
  induction h with
  | nil => rfl
  | cons hfirst _ ih => rw [ih, Prod.ext hfirst.1 hfirst.2.symm]

/-- An answer without the number of the reading in it. -/
def Answer.unnumbered : Answer → Answer
  | .reading r => .reading ⟨0, r.settings⟩
  | a => a

/-- The answers are the same but for the numbers of readings. -/
def SameAnswer (a b : Answer) : Prop := b.unnumbered = a.unnumbered

/-- Loaders that match give the same answers and still match. -/
lemma perform_twins (h : Matches host.disk l m) (a : Action) :
    Twins (steady host.disk) SameAnswer (l.perform host a) (m.perform host a) := by
  have hpaired := paired_steady host
  cases a with
  | load file o =>
    refine (loadPath_twins h (.ofText file) file).map fun r r' hsettings => ?_
    exact congrArg (fun settings => Answer.reading ⟨0, settings⟩) hsettings
  | loadBase =>
    refine (hpaired.loadBase h).map fun base base' hbase => ?_
    rw [hbase]
    rfl
  | loadOverlays =>
    refine (hpaired.loadOverlays h).map fun overlays overlays' hoverlays => ?_
    rw [hoverlays.eq]
    rfl
  | resolve name =>
    have hresolved : Twins (steady host.disk) Eq (l.resolve host name) (m.resolve host name) := by
      refine hpaired.resolve name ?_ ?_ h
      · rintro base _ overlays overlays' rfl hoverlays
        exact .of_eq (fun _ => rfl) (by rw [hoverlays.eq])
      · rintro base _ overlays overlays' rfl hoverlays -
        rw [hoverlays.eq]
    refine hresolved.map fun c c' hc => ?_
    rw [hc]
    rfl
  | available =>
    have hnames : m.available host.disk = l.available host.disk := by
      rw [Loader.available, Loader.available, overlayPaths_congr h.directory]
    rw [perform, perform, hnames]
    exact .of_ok h rfl
  | clearCache =>
    exact .of_ok ⟨⟨h.directory, h.variablesFile?, h.variables?, h.schemas⟩, fun _ => rfl⟩ rfl
  | change disk => exact .of_ok h rfl

/-- What the calls of a run return, but for the numbers of readings. -/
def answers (l : Loader) (host : Host) (actions : List Action) : List (Except ConfigError Answer) :=
  (l.run host actions).map fun c => c.2.2.result.map Answer.unnumbered

/-- Matching loaders answer alike as long as no file is changed. -/
lemma answers_eq {actions : List Action} (h : Matches host.disk l m)
    (hstill : ∀ disk, Action.change disk ∉ actions) :
    m.answers host actions = l.answers host actions := by
  induction actions generalizing l m with
  | nil => rfl
  | cons a actions ih =>
    have hafter : hostAfter host a = host := by
      cases a with
      | change disk => exact absurd List.mem_cons_self (hstill disk)
      | load | loadBase | loadOverlays | available | resolve | clearCache => rfl
    obtain ⟨hloader, -, hresult⟩ := perform_twins h a
    have hfirst : (m.perform host a).result.map Answer.unnumbered =
        (l.perform host a).result.map Answer.unnumbered :=
      (hresult.map fun _ _ hsame => hsame.symm).eq
    have hrest := ih hloader fun disk hdisk => hstill disk (List.mem_cons_of_mem a hdisk)
    simp only [answers, run, List.map_cons, hafter] at hrest ⊢
    rw [hfirst, hrest]

/-! ### Coherence -/

/-- What holds of a step after others, as far as what is kept is concerned. -/
structure Step.Coherent (past : List Step) (s : Step) : Prop where
  /-- A load that uses what is kept gives the same reading as every such load of its file since the
  loader was last told to forget. -/
  again : ∀ disk p o r, s.Gives disk p o r → o.useCache = true →
    ∀ s' ∈ sinceClear past, ∀ r', s'.Gets (disk.resolve p) r' → r' = r
  /-- The first such load of a file gives what the file holds. -/
  first : ∀ disk p o r, s.Gives disk p o r → o.useCache = true →
    (∀ s' ∈ sinceClear past, ∀ r', ¬ s'.Gets (disk.resolve p) r') →
    SettingsFile.read disk p = .ok r.settings
  /-- A load that does not use what is kept gives what the file holds. -/
  uncached : ∀ disk p o r, s.Gives disk p o r → o.useCache = false →
    SettingsFile.read disk p = .ok r.settings
  /-- As long as the files stay as they are, no call can tell whether there was a load that failed
  or that did not use what is kept. -/
  idle : ∀ disk file text o, s.event = .load disk file text o →
    o.useCache = false ∨ (∃ e, (s.loader.loadPath disk file text o).result = .error e) →
    ∀ vars later, (∀ disk', Action.change disk' ∉ later) →
      (s.loader.after s.event).answers ⟨disk, vars⟩ later = s.loader.answers ⟨disk, vars⟩ later

/-- What a load gives that finds and leaves what is kept as the steps before it account for. -/
lemma KeptOf.coherent {past : List Step} (h : KeptOf past s.loader) : s.Coherent past := by
  have hgives : ∀ disk p o r, s.Gives disk p o r →
      s.loader.remembered? disk p o = some r ∨
        s.loader.remembered? disk p o = none ∧ SettingsFile.read disk p = .ok r.settings := by
    rintro disk p o r ⟨file, text, -, hlocate, hresult⟩
    rw [loadPath, hlocate] at hresult
    exact loadAt_gives hresult
  constructor
  case again =>
    intro disk p o r hs hcache s' hs' r' hr'
    have hkept := (h (disk.resolve p) r').2 ⟨s', hs', hr'⟩
    rw [← remembered?_of_useCache hcache] at hkept
    rcases hgives disk p o r hs with hr | ⟨hnone, -⟩
    · exact Option.some.inj (hkept.symm.trans hr)
    · rw [hnone] at hkept
      cases hkept
  case first =>
    intro disk p o r hs hcache hfirst
    rcases hgives disk p o r hs with hr | ⟨-, hread⟩
    · rw [remembered?_of_useCache hcache] at hr
      obtain ⟨s', hs', hr'⟩ := (h (disk.resolve p) r).1 hr
      exact absurd hr' (hfirst s' hs' r)
    · exact hread
  case uncached =>
    intro disk p o r hs hcache
    rcases hgives disk p o r hs with hr | ⟨-, hread⟩
    · rw [remembered?, if_neg (by simp [hcache])] at hr
      cases hr
    · exact hread
  case idle =>
    intro disk file text o hevent hidle vars later hstill
    rw [hevent]
    have hmatches : Matches disk s.loader (s.loader.loadPath disk file text o).loader :=
      ⟨loadPath_resembles file text, fun place => by rw [kept_loadPath hidle]⟩
    exact answers_eq hmatches hstill

/-- The steps of a call are a stretch of those of the run. -/
lemma exists_history_eq_append {h : Host} {actions : List Action} {a : Action} {x : Loading Answer}
    {before rest : List (Host × Action × Loading Answer)}
    (hrun : l.run host actions = before ++ (h, a, x) :: rest) :
    ∃ (m : Loader) (older newer : List Step), x = m.perform h a ∧
      l.history host actions = older ++ m.steps (m.events h a) ++ newer := by
  induction actions generalizing l host before with
  | nil => simp [run] at hrun
  | cons b actions ih =>
    rw [run] at hrun
    cases before with
    | nil =>
      simp only [List.nil_append, List.cons.injEq, Prod.mk.injEq] at hrun
      obtain ⟨⟨rfl, rfl, rfl⟩, -⟩ := hrun
      exact ⟨l, [], _, rfl, rfl⟩
    | cons call before =>
      obtain ⟨m, older, newer, hx, hhistory⟩ := ih (List.cons.inj hrun).2
      refine ⟨m, l.steps (l.events host b) ++ older, newer, hx, ?_⟩
      rw [history, hhistory, List.append_assoc, List.append_assoc, List.append_assoc]

/-- The loads of each call of a run on a new loader are a stretch of the history of the run, and
every step of the history is coherent with the steps before it. -/
theorem run_coherent (l : Loader) (host : Host) (actions : List Action) (hnew : l.kept = []) :
    (∀ before h a x rest, l.run host actions = before ++ (h, a, x) :: rest →
      ∃ (m : Loader) (older newer : List Step), x = m.perform h a ∧
        l.history host actions = older ++ m.steps (m.events h a) ++ newer) ∧
    ∀ past s future, l.history host actions = past ++ s :: future → s.Coherent past := by
  refine ⟨fun _ _ _ _ _ => exists_history_eq_append, fun past s future hhistory => ?_⟩
  obtain ⟨es, hes⟩ := exists_history_eq l host actions
  have hstart : KeptOf [] l := by
    intro place r
    simp [hnew, sinceClear]
  exact (hstart.steps (hes ▸ hhistory)).coherent

end Loader

/-! ### A file that is written anew -/

namespace Rewritten

/-- A project with one file of settings that holds a text. -/
def disk (text : String) : Disk := ⟨[(["config", "settings.json"], .ok text)], [], []⟩

/-- The project before the file is written anew. -/
def host : Host := ⟨disk "\x7b\"timeout\": 5\x7d", []⟩

/-- The project after that. -/
def later : Host := ⟨disk "\x7b\"timeout\": 6\x7d", []⟩

/-- The loader of the project. -/
def loader : Loader := .new (.ofText "config") none none none

/-- The file is loaded, written anew and loaded again. -/
def actions : List Loader.Action :=
  [.load "settings.json" ⟨none, true, true⟩, .change later.disk,
    .load "settings.json" ⟨none, true, true⟩]

/-- What comes of loading the file. -/
def loading (l : Loader) (h : Host) : Loading Reading :=
  l.load h.disk "settings.json" ⟨none, true, true⟩

/-- The loader after the first load. -/
def between : Loader := (loading loader host).loader

/-- The step that loads the file. -/
def step (l : Loader) (h : Host) : Loader.Step :=
  ⟨l, .load h.disk (.ofText "settings.json") "settings.json" ⟨none, true, true⟩⟩

lemma history_eq : loader.history host actions = [step loader host, step between later] := by
  rw [actions, Loader.history, Loader.history, Loader.history, Loader.history]
  simp only [Loader.events, Loader.steps, Loader.perform, Loader.hostAfter, Loading.map,
    List.cons_append, List.nil_append, List.append_nil]
  rfl

/-- The file is found in the directory of the loader. -/
lemma step_gives {l : Loader} {h : Host} {r : Reading} (hl : l.directory = loader.directory)
    (hdisk : loader.locate h.disk (.ofText "settings.json") = some (.ofText "config/settings.json"))
    (hr : (loading l h).result = .ok r) :
    (step l h).Gives h.disk (.ofText "config/settings.json") ⟨none, true, true⟩ r := by
  refine ⟨_, _, rfl, ?_, hr⟩
  rw [step, Loader.locate_congr hl, hdisk]

lemma exists_of_isOk {ε α : Type} {x : Except ε α} (h : x.isOk = true) : ∃ a, x = .ok a := by
  cases x with
  | error e => cases h
  | ok a => exact ⟨a, rfl⟩

/-- The second load gives the reading of the first one: what the file held at first. -/
theorem run_coherent_rewritten : ∃ r,
    (loading loader host).result = .ok r ∧ (loading between later).result = .ok r ∧
      SettingsFile.read host.disk (.ofText "config/settings.json") = .ok r.settings := by
  have hboth : ((loading loader host).result.isOk && (loading between later).result.isOk) = true :=
    by decide +kernel
  rw [Bool.and_eq_true] at hboth
  obtain ⟨r, hr⟩ := exists_of_isOk hboth.1
  obtain ⟨r', hr'⟩ := exists_of_isOk hboth.2
  have hbetween : between.directory = loader.directory := by
    rw [between, loading, Loader.load, (Loader.loadPath_resembles _ _).directory]
  have hfirst := step_gives rfl (by decide) hr
  have hsecond := step_gives hbetween (by decide) hr'
  obtain ⟨-, hall⟩ := Loader.run_coherent loader host actions rfl
  have hsame : r = r' :=
    (hall [step loader host] (step between later) [] history_eq).again _ _ _ r' hsecond rfl
      (step loader host) List.mem_cons_self r ⟨_, _, _, hfirst, rfl, rfl⟩
  have hread := (hall [] (step loader host) [step between later] history_eq).first _ _ _ r hfirst
    rfl fun _ h => absurd h List.not_mem_nil
  rw [← hsame] at hr'
  exact ⟨r, hr, hr', hread⟩

end Rewritten

end TaggedSuite
