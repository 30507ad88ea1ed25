import Mathlib.Data.List.Duplicate
import TaggedSuite.Proofs.Config.Coherence
import TaggedSuite.Proofs.Config.Surface

/-!
# Listed environments

The names of the environments are told in two ways: from the files in their directory alone, and by
loading the overlays, which ends at the second file for one name. Both go through the same files, so
they tell the same names if the overlays load. A configuration is resolved from what a loader gives
that may have been asked before. As long as the files stay as they are, this makes no difference to
what loads: whatever has been kept meanwhile is what its file holds.
-/
namespace TaggedSuite

lemma List.nodup_eraseDups {α : Type} [BEq α] [LawfulBEq α] (xs : List α) : xs.eraseDups.Nodup := by
  cases xs with
  | nil => exact List.nodup_nil
  | cons x xs =>
    have hlength := List.length_filter_le (fun y => !(y == x)) xs
    rw [List.eraseDups_cons, List.nodup_cons]
    exact ⟨by simp, nodup_eraseDups _⟩
termination_by xs.length
decreasing_by exact Nat.lt_succ_of_le hlength

lemma List.eraseDups_eq_self {α : Type} [BEq α] [LawfulBEq α] {xs : List α} (h : xs.Nodup) :
    xs.eraseDups = xs := by
  induction xs with
  | nil => rfl
  | cons x xs ih =>
    obtain ⟨hx, hxs⟩ := List.nodup_cons.1 h
    have hother : xs.filter (fun y => !(y == x)) = xs := by
      rw [List.filter_eq_self]
      intro y hy
      simpa using ne_of_mem_of_not_mem hy hx
    rw [List.eraseDups_cons, hother, ih hxs]

lemma Overlays.isSome_lookup {overlays : Overlays} {name : String} :
    (overlays.lookup name).isSome = true ↔ name ∈ overlays.map (·.1) := by
  rw [List.lookup_isSome_iff, List.mem_map]
  exact exists_congr fun e => and_congr_right fun _ => by rw [beq_iff_eq, eq_comm]

lemma Loading.result_andThen {α β : Type} {x : Loading α} {next : Loader → α → Loading β} {a : α}
    (h : x.result = .ok a) : (x.andThen next).result = (next x.loader a).result := by
  rw [andThen, h]

lemma Loading.andThen_eq_ok {α β : Type} {x : Loading α} {next : Loader → α → Loading β} {b : β} :
    (x.andThen next).result = .ok b ↔ ∃ a, x.result = .ok a ∧ (next x.loader a).result = .ok b := by
  rw [andThen]
  cases x.result <;> simp

namespace Loader

open Loading (Ends)

variable {l m k : Loader} {disk : Disk} {host : Host} {vars : Variables} {log : List LogLine}
  {p : Path} {o : LoadOptions} {r : Reading} {base overlay : Entries} {overlays : Overlays}
  {name : String}

/-! ### The names of environments -/

/-- The names that the files of the overlays stand for, in the order of their paths. -/
def stems (l : Loader) (disk : Disk) : List String := (l.overlayPaths disk).map Path.stem

/-- No two files of overlays stand for one name. -/
def NamesDiffer (l : Loader) (disk : Disk) : Prop :=
  ∀ p ∈ l.overlayPaths disk, ∀ q ∈ l.overlayPaths disk, p.stem = q.stem → p = q

lemma nodup_overlayPaths (l : Loader) (disk : Disk) : (l.overlayPaths disk).Nodup := by
  have hnames : (disk.names l.environments).Nodup := by
    rw [Disk.names]
    split
    · exact List.nodup_nil
    · exact (List.mergeSort_perm _ _).nodup_iff.2 (List.nodup_eraseDups _)
  refine (hnames.map fun n n' hsame => ?_).filter _
  simpa using congrArg Path.name hsame

lemma nodup_stems : (l.stems disk).Nodup ↔ l.NamesDiffer disk :=
  List.nodup_map_iff_inj_on (nodup_overlayPaths l disk)

lemma mem_available : name ∈ l.available disk ↔ name ∈ l.stems disk := by
  rw [available, List.mem_mergeSort, List.mem_eraseDups, stems]

lemma AreOf.names {Good : Path → Entries → Prop} {paths : List Path}
    (h : AreOf Good paths overlays) : overlays.map (·.1) = paths.map Path.stem := by
  induction h with
  | nil => rfl
  | cons hfirst _ ih => rw [List.map_cons, List.map_cons, hfirst.1, ih]

lemma loadOverlays_of_isDirectory (hthere : host.disk.isDirectory l.environments = true)
    (hgather : Variables.gather host.disk host.processVariables l.variablesFile? l.variables? =
      .ok (vars, log)) :
    (l.loadOverlays host).result =
      (l.loadOverlaysAt host.disk vars [] (l.overlayPaths host.disk)).result := by
  simp only [loadOverlays, hthere, if_true, hgather, Loading.andThen]
  cases (l.loadOverlaysAt host.disk vars [] (l.overlayPaths host.disk)).result <;> rfl

lemma loadOverlays_of_not_isDirectory (h : host.disk.isDirectory l.environments = false) :
    (l.loadOverlays host).result = .ok [] := by
  rw [loadOverlays, h]
  rfl

/-- Overlays load if there are none, or if there are variables and they load one after the other. -/
lemma loadOverlays_eq_ok : (l.loadOverlays host).result = .ok overlays ↔
    host.disk.isDirectory l.environments = false ∧ overlays = [] ∨
    host.disk.isDirectory l.environments = true ∧ ∃ vars log,
      Variables.gather host.disk host.processVariables l.variablesFile? l.variables? =
        .ok (vars, log) ∧
      (l.loadOverlaysAt host.disk vars [] (l.overlayPaths host.disk)).result = .ok overlays := by
  cases hthere : host.disk.isDirectory l.environments with
  | false => simp [loadOverlays_of_not_isDirectory hthere, eq_comm]
  | true =>
    cases hgather : Variables.gather host.disk host.processVariables l.variablesFile? l.variables?
      with
    | error f => simp [loadOverlays, hthere, hgather]
    | ok gathered =>
      obtain ⟨vars, log⟩ := gathered
      simp [loadOverlays_of_isDirectory hthere hgather]

/-- Overlays that load are those of the files, no two of which stand for one name. -/
lemma loadOverlays_names (h : (l.loadOverlays host).result = .ok overlays) :
    (l.stems host.disk).Nodup ∧ overlays.map (·.1) = l.stems host.disk := by
  rcases loadOverlays_eq_ok.1 h with ⟨hthere, rfl⟩ | ⟨-, vars, log, -, hall⟩
  · rw [stems, overlayPaths_eq_nil hthere]
    exact ⟨List.nodup_nil, rfl⟩
  · have hends : Ends (fun _ => True) (fun _ => True) (fun overlays =>
        (overlays.map (·.1)).Nodup ∧ ∃ more, overlays = [] ++ more ∧
          AreOf (fun _ _ => True) (l.overlayPaths host.disk) more)
        (l.loadOverlaysAt host.disk vars [] (l.overlayPaths host.disk)) :=
      loadOverlaysAt_ends (fun _ _ _ _ => ⟨trivial, fun _ _ => trivial, fun _ _ => trivial⟩)
        (fun _ _ _ => trivial) [] trivial List.nodup_nil
    obtain ⟨hnodup, more, rfl, hmore⟩ := hends.good overlays hall
    have hnames := hmore.names
    exact ⟨by rwa [stems, ← hnames], hnames⟩

lemma names_eq_available (h : (l.loadOverlays host).result = .ok overlays) :
    overlays.names = l.available host.disk := by
  obtain ⟨hnodup, hnames⟩ := loadOverlays_names h
  rw [Overlays.names, hnames, available, ← stems, List.eraseDups_eq_self hnodup]

/-! ### Loaders that have read more -/

/-- The second loader is the first one with other readings: it has kept the same settings wherever
the first one has kept any, and what it has kept besides is what its files hold. -/
structure Follows (disk : Disk) (l m : Loader) : Prop extends Resembles disk l m where
  kept : ∀ place r, l.kept.lookup place = some r →
    ∃ r', m.kept.lookup place = some r' ∧ SameSettings r r'
  added : ∀ p r', SettingsFile.isFile disk p = true → l.kept.lookup (disk.resolve p) = none →
    m.kept.lookup (disk.resolve p) = some r' → SettingsFile.read disk p = .ok r'.settings

namespace Resembles

lemma symm (h : Resembles disk l m) : Resembles disk m l :=
  ⟨h.directory.symm, h.variablesFile?.symm, h.variables?.symm, fun name => (h.schemas name).symm⟩

lemma trans (h : Resembles disk l m) (h' : Resembles disk m k) : Resembles disk l k :=
  ⟨h'.directory.trans h.directory, h'.variablesFile?.trans h.variablesFile?,
    h'.variables?.trans h.variables?, fun name => (h'.schemas name).trans (h.schemas name)⟩

lemma environments (h : Resembles disk l m) : m.environments = l.environments := by
  rw [Loader.environments, Loader.environments, h.directory]

lemma loadAt : Resembles disk l (l.loadAt disk p o).loader := by
  rw [Loader.loadAt]
  cases l.remembered? disk p o with
  | some r => exact .refl
  | none => exact readAt_resembles

/-- What is read does not depend on what is kept. -/
lemma readAt (h : Resembles disk l m) (hr : (l.readAt disk p o).result = .ok r) :
    ∃ r', (m.readAt disk p o).result = .ok r' ∧ SameSettings r r' := by
  unfold Loader.readAt at hr ⊢
  cases hread : SettingsFile.read disk p with
  | error e =>
    rw [hread] at hr
    cases hr
  | ok settings =>
    rw [hread] at hr
    have hcheck : (checkAny { m with readings := m.readings + 1 } disk o.schemaToCheck p.text
        settings).result = (checkAny { l with readings := l.readings + 1 } disk o.schemaToCheck
        p.text settings).result := by
      cases o.schemaToCheck with
      | none => rfl
      | some name =>
        exact congrArg
          (fun found => found.bind fun c => SchemaRegistry.check c name p.text (.map settings))
          (h.schemas name)
    obtain ⟨u, hu, hr⟩ := Loading.andThen_eq_ok.1 hr
    cases hr
    exact ⟨⟨m.readings, settings⟩, Loading.andThen_eq_ok.2 ⟨u, hcheck.trans hu, rfl⟩, rfl⟩

end Resembles

namespace Follows

lemma refl : Follows disk l l where
  toResembles := .refl
  kept _ r h := ⟨r, h, rfl⟩
  added _ _ _ hnone hsome := by
    rw [hnone] at hsome
    cases hsome

/-! #### The second loader goes on -/

lemma loadAt (h : Follows disk l m) : Follows disk l (m.loadAt disk p o).loader where
  toResembles := h.toResembles.trans .loadAt
  kept place r hr := by
    obtain ⟨r', hr', hsame⟩ := h.kept place r hr
    exact ⟨r', lookup_loadAt.2 (.inl hr'), hsame⟩
  added q r' hq hnone hsome := by
    rcases lookup_loadAt.1 hsome with hkept | ⟨hnew, hcache, hplace⟩
    · exact h.added q r' hq hnone hkept
    · rcases loadAt_gives hnew with hkept | ⟨-, hread⟩
      · rw [remembered?_of_useCache hcache, hplace] at hkept
        exact h.added q r' hq hnone hkept
      · exact SettingsFile.read_of_resolve hq hread hplace.symm

lemma loadPath (h : Follows disk l m) (file : Path) (text : String) (o : LoadOptions) :
    Follows disk l (m.loadPath disk file text o).loader := by
  rw [Loader.loadPath]
  cases m.locate disk file with
  | none => exact h
  | some p => exact h.loadAt

/-- Loads of files leave a loader that follows. -/
lemma foldl_after (h : Follows disk l m) {es : List Event}
    (hes : ∀ e ∈ es, ∃ file text o, e = .load disk file text o) :
    Follows disk l (es.foldl after m) := by
  induction es generalizing m with
  | nil => exact h
  | cons e es ih =>
    obtain ⟨⟨file, text, o, rfl⟩, hrest⟩ := List.forall_mem_cons.1 hes
    exact ih (h.loadPath file text o) hrest

/-! #### Both loaders do the same -/

/-- What the first loader gets, the second one gets too, from what is kept or from the file. -/
lemma exists_loadAt (h : Follows disk l m) (hr : (l.loadAt disk p o).result = .ok r) :
    ∃ r', (m.loadAt disk p o).result = .ok r' ∧ SameSettings r r' := by
  by_cases hcache : o.useCache = true
  · rw [Loader.loadAt, remembered?_of_useCache hcache] at hr ⊢
    cases hl : l.kept.lookup (disk.resolve p) with
    | some r₀ =>
      rw [hl] at hr
      cases hr
      obtain ⟨r', hr', hsame⟩ := h.kept _ r hl
      exact ⟨r', by rw [hr'], hsame⟩
    | none =>
      rw [hl] at hr
      cases hm : m.kept.lookup (disk.resolve p) with
      | none => exact h.toResembles.readAt hr
      | some r' =>
        -- the second loader has read the file before, the first one reads it now
        have hread := (readAt_kept.1 r hr).1
        have hheld := h.added p r' (SettingsFile.isFile_of_read hread) hl hm
        exact ⟨r', rfl, Except.ok.inj (hheld.symm.trans hread)⟩
  · rw [Loader.loadAt, remembered?, if_neg hcache] at hr ⊢
    exact h.toResembles.readAt hr

/-- What the first loader gets, the second one gets too, and then it still follows. -/
lemma loadAt_both (h : Follows disk l m) (hr : (l.loadAt disk p o).result = .ok r) :
    ∃ r', (m.loadAt disk p o).result = .ok r' ∧ SameSettings r r' ∧
      Follows disk (l.loadAt disk p o).loader (m.loadAt disk p o).loader := by
  obtain ⟨r', hr', hsame⟩ := h.exists_loadAt hr
  refine ⟨r', hr', hsame, Resembles.loadAt.symm.trans (h.toResembles.trans .loadAt),
    fun place r₀ hr₀ => ?_, fun q r₀ hq hnone hsome => ?_⟩
  · rcases lookup_loadAt.1 hr₀ with hkept | ⟨hnew, hcache, hplace⟩
    · obtain ⟨r₁, hr₁, hsame⟩ := h.kept place r₀ hkept
      exact ⟨r₁, lookup_loadAt.2 (.inl hr₁), hsame⟩
    · obtain rfl : r = r₀ := Except.ok.inj (hr.symm.trans hnew)
      exact ⟨r', lookup_loadAt.2 (.inr ⟨hr', hcache, hplace⟩), hsame⟩
  · -- what the first loader has not kept even now, it did not get and had not kept before
    rw [Option.eq_none_iff_forall_ne_some] at hnone
    rcases lookup_loadAt.1 hsome with hkept | ⟨-, hcache, hplace⟩
    · refine h.added q r₀ hq (Option.eq_none_iff_forall_ne_some.2 fun r₁ hr₁ => ?_) hkept
      exact hnone r₁ (lookup_loadAt.2 (.inl hr₁))
    · exact absurd (lookup_loadAt.2 (.inr ⟨hr, hcache, hplace⟩)) (hnone r)

lemma loadPath_both (h : Follows disk l m) {file : Path} {text : String}
    (hr : (l.loadPath disk file text o).result = .ok r) :
    ∃ r', (m.loadPath disk file text o).result = .ok r' ∧ SameSettings r r' ∧
      Follows disk (l.loadPath disk file text o).loader (m.loadPath disk file text o).loader := by
  rw [Loader.loadPath] at hr ⊢
  rw [Loader.loadPath, locate_congr h.directory]
  cases hfound : l.locate disk file with
  | none =>
    rw [hfound] at hr
    cases hr
  | some p =>
    rw [hfound] at hr
    exact h.loadAt_both hr

lemma loadBase (h : Follows disk l m) (hbase : (l.loadBase disk).result = .ok base) :
    (m.loadBase disk).result = .ok base := by
  rw [Loader.loadBase] at hbase ⊢
  rw [basePath?_congr h.directory]
  cases hfound : l.basePath? disk with
  | none =>
    rw [hfound] at hbase
    exact hbase
  | some p =>
    rw [hfound] at hbase
    obtain ⟨r, hr, rfl⟩ := Loading.map_eq_ok.1 hbase
    obtain ⟨r', hr', hsame, -⟩ := h.loadPath_both hr
    exact Loading.map_eq_ok.2 ⟨r', hr', hsame⟩

lemma loadOverlay (h : Follows disk l m)
    (hoverlay : (l.loadOverlay disk vars p).result = .ok overlay) :
    (m.loadOverlay disk vars p).result = .ok overlay ∧
      Follows disk (l.loadOverlay disk vars p).loader (m.loadOverlay disk vars p).loader := by
  obtain ⟨r, hr, hexpand⟩ := Loading.andThen_eq_ok.1 hoverlay
  obtain ⟨r', hr', hsame, hnext⟩ := h.loadPath_both hr
  rw [loader_loadOverlay, loader_loadOverlay]
  refine ⟨Loading.andThen_eq_ok.2 ⟨r', hr', ?_⟩, hnext⟩
  dsimp only at hexpand ⊢
  rwa [hsame]

/-- Overlays that were loaded once are loaded again. -/
lemma loadOverlaysAt (h : Follows disk l m) {loaded : Overlays} {paths : List Path}
    (hall : (l.loadOverlaysAt disk vars loaded paths).result = .ok overlays) :
    (m.loadOverlaysAt disk vars loaded paths).result = .ok overlays := by
  induction paths generalizing l m loaded with
  | nil => exact hall
  | cons p paths ih =>
    rw [Loader.loadOverlaysAt] at hall ⊢
    by_cases hrepeated : (loaded.lookup p.stem).isSome = true
    · rw [if_pos hrepeated] at hall
      cases hall
    · rw [if_neg hrepeated] at hall ⊢
      obtain ⟨overlay, hoverlay, hrest⟩ := Loading.andThen_eq_ok.1 hall
      obtain ⟨hsame, hnext⟩ := h.loadOverlay hoverlay
      exact Loading.andThen_eq_ok.2 ⟨overlay, hsame, ih hnext hrest⟩

lemma loadOverlays (h : Follows host.disk l m)
    (hoverlays : (l.loadOverlays host).result = .ok overlays) :
    (m.loadOverlays host).result = .ok overlays := by
  rw [loadOverlays_eq_ok] at hoverlays ⊢
  rw [h.environments, h.variablesFile?, h.variables?, overlayPaths_congr h.directory]
  refine hoverlays.imp_right fun ⟨hthere, vars, log, hgather, hall⟩ => ?_
  exact ⟨hthere, vars, log, hgather, h.loadOverlaysAt hall⟩

end Follows

/-- Files that load one by one load one after the other, until one comes that stands for the same
name as one before. -/
lemma loadOverlaysAt_of_each {before paths : List Path} {loaded : Overlays} (h : Follows disk l m)
    (heach : ∀ p ∈ paths, ∃ overlay, (l.loadOverlay disk vars p).result = .ok overlay)
    (hloaded : loaded.map (·.1) = before.map Path.stem) (hnodup : (before ++ paths).Nodup) :
    (∃ overlays, (m.loadOverlaysAt disk vars loaded paths).result = .ok overlays) ∨
      ∃ p ∈ before ++ paths, ∃ q ∈ before ++ paths, p.stem = q.stem ∧ p ≠ q ∧
        (m.loadOverlaysAt disk vars loaded paths).result =
          .error (.repeatedEnvironment p.stem l.environments.text) := by
  induction paths generalizing m before loaded with
  | nil => exact .inl ⟨loaded, rfl⟩
  | cons p paths ih =>
    rw [loadOverlaysAt]
    by_cases hrepeated : (loaded.lookup p.stem).isSome = true
    · obtain ⟨q, hq, hstem⟩ := List.mem_map.1 (hloaded ▸ Overlays.isSome_lookup.1 hrepeated)
      have hne : p ≠ q := by
        rintro rfl
        exact List.disjoint_of_nodup_append hnodup hq List.mem_cons_self
      right
      refine ⟨p, by simp, q, List.mem_append_left _ hq, hstem.symm, hne, ?_⟩
      rw [if_pos hrepeated, h.environments]
    · -- what loads for the first loader still loads for one that has read the files before
      obtain ⟨⟨overlay, hoverlay⟩, hrest⟩ := List.forall_mem_cons.1 heach
      have hnext : Follows disk l (m.loadOverlay disk vars p).loader := by
        rw [loader_loadOverlay]
        exact h.loadPath _ _ _
      have hnames : (loaded ++ [(p.stem, overlay)]).map (·.1) = (before ++ [p]).map Path.stem := by
        rw [List.map_append, List.map_append, hloaded]
        rfl
      have hsplit : before ++ p :: paths = before ++ [p] ++ paths := by simp
      rw [if_neg hrepeated, Loading.result_andThen (h.loadOverlay hoverlay).1, hsplit]
      exact ih hnext hrest hnames (hsplit ▸ hnodup)

/-- Overlays that load one by one load all together, unless two of them have the same name. -/
lemma loadOverlays_of_each
    (hgather : Variables.gather host.disk host.processVariables l.variablesFile? l.variables? =
      .ok (vars, log))
    (heach : ∀ p ∈ l.overlayPaths host.disk,
      ∃ overlay, (l.loadOverlay host.disk vars p).result = .ok overlay) :
    (∃ overlays, (l.loadOverlays host).result = .ok overlays) ∨
      ∃ p ∈ l.overlayPaths host.disk, ∃ q ∈ l.overlayPaths host.disk, p.stem = q.stem ∧ p ≠ q ∧
        (l.loadOverlays host).result =
          .error (.repeatedEnvironment p.stem l.environments.text) := by
  cases hthere : host.disk.isDirectory l.environments with
  | false => exact .inl ⟨[], loadOverlays_of_not_isDirectory hthere⟩
  | true =>
    rw [loadOverlays_of_isDirectory hthere hgather]
    have hnone : ([] : Overlays).map (·.1) = ([] : List Path).map Path.stem := rfl
    exact loadOverlaysAt_of_each .refl heach hnone (nodup_overlayPaths l host.disk)

/-! ### Calls in between -/

/-- The loader after calls that neither change the files nor make it forget what it has read. -/
inductive Later (host : Host) (l : Loader) : Loader → Prop
  | refl : Later host l l
  | call {m : Loader} (h : Later host l m) (a : Action) (hclear : a ≠ .clearCache)
    (hchange : ∀ disk, a ≠ .change disk) : Later host l (m.perform host a).loader

lemma Later.loadBase : Later host l (l.loadBase host.disk).loader :=
  .call .refl .loadBase nofun nofun

lemma exists_load_of_mem_overlayEventsAt {e : Event} {loaded : Overlays} {paths : List Path}
    (he : e ∈ l.overlayEventsAt disk vars loaded paths) :
    ∃ file text o, e = .load disk file text o := by
  induction paths generalizing l loaded with
  | nil => cases he
  | cons p paths ih =>
    rw [overlayEventsAt] at he
    split_ifs at he
    · cases he
    · rcases List.mem_cons.1 he with rfl | he
      · exact ⟨_, _, _, rfl⟩
      · split at he
        · cases he
        · exact ih he

lemma exists_load_of_mem_overlayEvents {e : Event} (he : e ∈ l.overlayEvents host) :
    ∃ file text o, e = .load host.disk file text o := by
  rw [overlayEvents] at he
  split_ifs at he
  · split at he
    · cases he
    · exact exists_load_of_mem_overlayEventsAt he
  · cases he

lemma exists_load_of_mem_baseEvents {e : Event} (he : e ∈ l.baseEvents disk) :
    ∃ file text o, e = .load disk file text o := by
  obtain ⟨p, -, rfl⟩ := List.mem_map.1 he
  exact ⟨_, _, _, rfl⟩

/-- A call that does not make the loader forget what it has read loads files. -/
lemma exists_load_of_mem_events {e : Event} {a : Action} (hclear : a ≠ .clearCache)
    (he : e ∈ l.events host a) : ∃ file text o, e = .load host.disk file text o := by
  cases a with
  | load file o => exact ⟨_, _, _, List.mem_singleton.1 he⟩
  | loadBase => exact exists_load_of_mem_baseEvents he
  | loadOverlays => exact exists_load_of_mem_overlayEvents he
  | resolve name =>
    rcases List.mem_append.1 he with he | he
    · exact exists_load_of_mem_baseEvents he
    · split at he
      · cases he
      · exact exists_load_of_mem_overlayEvents he
  | clearCache => exact absurd rfl hclear
  | available | change disk => cases he

/-- One call. -/
lemma Follows.perform (h : Follows host.disk l m) {a : Action} (hclear : a ≠ .clearCache) :
    Follows host.disk l (m.perform host a).loader := by
  rw [← foldl_events]
  exact h.foldl_after fun _ he => exists_load_of_mem_events hclear he

/-- Calls that follow one another leave a loader that follows the first one. -/
lemma Later.follows (h : Later host l m) : Follows host.disk l m := by
  induction h with
  | refl => exact .refl
  | call _ a hclear _ ih => exact ih.perform hclear

/-! ### Resolving -/

lemma resolve_of_loaded (hbase : (l.loadBase host.disk).result = .ok base)
    (hoverlays : ((l.loadBase host.disk).loader.loadOverlays host).result = .ok overlays) :
    (l.resolve host name).result = Overlays.resolve name base overlays := by
  simp only [resolve]
  rw [Loading.result_andThen hbase, Loading.result_andThen hoverlays]

/-- A name that is not listed is unknown. What keeps any other one from resolving are the settings.
-/
lemma resolve_cases (hnames : overlays.map (·.1) = l.stems disk)
    (havailable : overlays.names = l.available disk) :
    (Text.strip name ∉ l.available disk → Overlays.resolve name base overlays =
      .error (.unknownEnvironment (Text.strip name) (l.available disk))) ∧
    (Text.strip name ∈ l.available disk →
      (∃ c, Overlays.resolve name base overlays = .ok c) ∨
        ∃ f, Overlays.resolve name base overlays = .error (.unsettled f)) := by
  rw [mem_available, ← hnames, ← Overlays.isSome_lookup, Overlays.resolve, havailable]
  cases overlays.lookup (Text.strip name) with
  | none => simp
  | some overlay =>
    refine ⟨fun h => absurd rfl h, fun _ => ?_⟩
    dsimp only
    generalize (do RunConfig.build (Text.strip name) (← Settings.merge base overlay)) = built
    cases built with
    | ok c => exact .inl ⟨c, rfl⟩
    | error f => exact .inr ⟨f, rfl⟩

/-- The environments that are listed are those that resolve. Overlays that load have different
names, which are the listed ones. If the files of the overlays load one by one, they load all
together, unless two files have the same name. If the base settings have loaded and the overlays
have, each at some time since the files last changed and the loader was told to forget what it had
read, a name that is not listed does not resolve, with an error that has the list, and one that is
listed does, unless its settings do not make a configuration. -/
theorem lists_resolvable (l : Loader) (host : Host) :
    (∀ overlays, (l.loadOverlays host).result = .ok overlays →
      l.NamesDiffer host.disk ∧
        overlays.map (·.1) = (l.overlayPaths host.disk).map Path.stem ∧
        overlays.names = l.available host.disk) ∧
    (∀ vars log,
      Variables.gather host.disk host.processVariables l.variablesFile? l.variables? =
        .ok (vars, log) →
      (∀ p ∈ l.overlayPaths host.disk,
        ∃ overlay, (l.loadOverlay host.disk vars p).result = .ok overlay) →
      (l.NamesDiffer host.disk → ∃ overlays, (l.loadOverlays host).result = .ok overlays) ∧
      (¬ l.NamesDiffer host.disk →
        ∃ p ∈ l.overlayPaths host.disk, ∃ q ∈ l.overlayPaths host.disk,
          p.stem = q.stem ∧ p ≠ q ∧ (l.loadOverlays host).result =
            .error (.repeatedEnvironment p.stem l.environments.text))) ∧
    ∀ first second base overlays name,
      Later host first l → (first.loadBase host.disk).result = .ok base →
      Later host second (l.loadBase host.disk).loader →
      (second.loadOverlays host).result = .ok overlays →
      (Text.strip name ∉ l.available host.disk → (l.resolve host name).result =
        .error (.unknownEnvironment (Text.strip name) (l.available host.disk))) ∧
      (Text.strip name ∈ l.available host.disk →
        (∃ c, (l.resolve host name).result = .ok c) ∨
          ∃ f, (l.resolve host name).result = .error (.unsettled f)) := by
  refine ⟨fun overlays h => ?_, fun vars log hgather heach => ?_, ?_⟩
  · obtain ⟨hnodup, hnames⟩ := loadOverlays_names h
    exact ⟨nodup_stems.1 hnodup, hnames, names_eq_available h⟩
  · rcases loadOverlays_of_each hgather heach with ⟨overlays, hall⟩ | ⟨p, hp, q, hq, hsame, hne, he⟩
    · refine ⟨fun _ => ⟨overlays, hall⟩, fun hshared => ?_⟩
      exact absurd (nodup_stems.1 (loadOverlays_names hall).1) hshared
    · exact ⟨fun hdiffer => absurd (hdiffer p hp q hq hsame) hne,
        fun _ => ⟨p, hp, q, hq, hsame, hne, he⟩⟩
  · intro first second base overlays name hfirst hbase hsecond hoverlays
    have hbase := hfirst.follows.loadBase hbase
    have hoverlays := hsecond.follows.loadOverlays hoverlays
    have hdirectory : (l.loadBase host.disk).loader.directory = l.directory :=
      Later.loadBase.follows.directory
    obtain ⟨-, hnames⟩ := loadOverlays_names hoverlays
    have havailable := names_eq_available hoverlays
    rw [stems, overlayPaths_congr hdirectory] at hnames
    rw [available, overlayPaths_congr hdirectory] at havailable
    rw [resolve_of_loaded hbase hoverlays]
    exact resolve_cases hnames havailable

end Loader

/-! ### Two files for one environment -/

namespace TwoFiles

/-- A project with two files for one environment. -/
def host : Host where
  disk := ⟨[(["config", "environments", "qa.JSON"], .ok "\x7b\x7d"),
    (["config", "environments", "qa.json"], .ok "\x7b\x7d")], [], []⟩
  processVariables := []

/-- A new loader of the settings. -/
def loader : Loader := .new (.ofText "/config") none none none

/-- The paths of the two files. -/
def paths : List Path :=
  [.ofText "/config/environments/qa.JSON", .ofText "/config/environments/qa.json"]

lemma overlayPaths_eq : loader.overlayPaths host.disk = paths := by
  have hnames : host.disk.names loader.environments = ["qa.JSON", "qa.json"] := by
    show (["qa.JSON", "qa.json"].eraseDups).mergeSort _ = ["qa.JSON", "qa.json"]
    rw [List.eraseDups_eq_self (by decide)]
    exact List.mergeSort_of_pairwise (by decide)
  rw [Loader.overlayPaths, hnames]
  rfl

lemma stem_eq : ∀ p ∈ paths, p.stem = "qa" := by decide

lemma not_namesDiffer : ¬ loader.NamesDiffer host.disk := by
  rw [Loader.NamesDiffer, overlayPaths_eq]
  intro hdiffer
  have hsame : ∀ p ∈ paths, ∀ q ∈ paths, p.name = q.name := fun p hp q hq =>
    congrArg Path.name (hdiffer p hp q hq ((stem_eq p hp).trans (stem_eq q hq).symm))
  exact absurd hsame (by decide)

/-- Each of the two files loads. -/
lemma exists_loadOverlay : ∀ p ∈ loader.overlayPaths host.disk,
    ∃ overlay, (loader.loadOverlay host.disk [] p).result = .ok overlay := by
  rw [overlayPaths_eq]
  intro p hp
  have hlocate : ∀ p ∈ paths, loader.locate host.disk p = some p := by decide
  have hread : ∀ p ∈ paths, Nested.areFree 0 Bundled.overlayProperties
    (SettingsFile.read host.disk p) = true := by decide +kernel
  obtain ⟨settings, hread, hcount, hconforms⟩ :=
    Nested.exists_of_areFree Bundled.isSchema_overlay (hread p hp)
  obtain rfl : settings = [] := List.length_eq_zero_iff.1 hcount
  have hload : (loader.loadPath host.disk p p.text (.checked Bundled.overlayName)).result =
      .ok ⟨0, []⟩ :=
    Loader.loadPath_of_conforms (Bundled.overlayName, Bundled.overlay)
      SchemaRegistry.isBundled_new rfl (List.mem_cons_of_mem _ List.mem_cons_self) (hlocate p hp)
      hread hconforms
  exact ⟨[], Loading.andThen_eq_ok.2 ⟨_, hload, rfl⟩⟩

end TwoFiles

/-- Settings that leave every field open make a configuration. -/
lemma RunConfig.exists_build_of_open {settings : Entries}
    (h : ∀ key ∈ ["env", "baseUrl", "apiUrl"], settings.get? (.str key) = none) (name : String) :
    ∃ c, build name settings = .ok c := by
  have henv : envEntries settings = [] := by
    rw [envEntries, sectionEntries, Settings.envKey, h "env" (by simp)]
    rfl
  have hurl (key : String) (hkey : key ∈ ["env", "baseUrl", "apiUrl"]) :
      url settings key = .ok "" := by
    refine url_of_nothing ?_
    rw [urlValue?, henv]
    exact h key hkey
  have htext (key default : String) : textOr settings key default = .ok default := by
    rw [textOr, henv]
    rfl
  rw [build, hurl "baseUrl" (by simp), hurl "apiUrl" (by simp), htext, htext, htext]
  exact ⟨_, rfl⟩

/-- The environment that is listed resolves. -/
lemma Nested.exists_resolve {base : Entries} (hkeyed : Value.IsKeyed (.map base))
    (hopen : ∀ key ∈ ["env", "baseUrl", "apiUrl"], base.get? (.str key) = none) :
    ∃ c, Overlays.resolve " qa " base [("qa", [])] = .ok c := by
  obtain ⟨c, hc⟩ := RunConfig.exists_build_of_open hopen "qa"
  have hmerge : Settings.merge base [] = .ok base := Settings.merge_eq_ok hkeyed.haveCopies rfl
  have hname : Text.strip " qa " = "qa" := by decide
  refine ⟨c, ?_⟩
  simp only [Overlays.resolve, hname, List.lookup_cons_self, hmerge]
  exact congrArg (Except.mapError ConfigError.unsettled) hc

/-- In the one project two files have the same name. In the other one there is one environment. -/
theorem lists_resolvable_shared :
    (TwoFiles.loader.loadOverlays TwoFiles.host).result =
        .error (.repeatedEnvironment "qa" "/config/environments") ∧
    (∃ overlays, ((Nested.loader "/config").loadOverlays Nested.host).result = .ok overlays ∧
      overlays.names = ["qa"]) ∧
    ((Nested.loader "/config").resolve Nested.host " prod ").result =
      .error (.unknownEnvironment "prod" ["qa"]) ∧
    ∃ c, ((Nested.loader "/config").resolve Nested.host " qa ").result = .ok c := by
  have havailable : (Nested.loader "/config").available Nested.host.disk = ["qa"] := by
    have hnames : Nested.host.disk.names (Nested.loader "/config").environments = ["qa.json"] := by
      show (["qa.json"].eraseDups).mergeSort _ = ["qa.json"]
      rw [List.eraseDups_cons]
      exact List.mergeSort_singleton _
    rw [Loader.available, Loader.overlayPaths, hnames]
    exact List.mergeSort_singleton _
  obtain ⟨base, hbase, hkeyed, hopen⟩ := Nested.loadBase_absolute
  obtain ⟨_, hbase, ⟨⟩⟩ := Loading.map_eq_ok.1 hbase
  obtain ⟨_, hoverlays, ⟨⟩⟩ := Loading.map_eq_ok.1 Nested.loadOverlays_absolute
  obtain ⟨-, hshared, -⟩ := Loader.lists_resolvable TwoFiles.loader TwoFiles.host
  obtain ⟨hnames, -, hresolve⟩ := Loader.lists_resolvable (Nested.loader "/config") Nested.host
  have hresolve := fun name => hresolve (Nested.loader "/config") (Nested.loader "/config") base
    [("qa", [])] name .refl hbase .loadBase hoverlays
  rw [havailable] at hnames hresolve
  refine ⟨?_, ⟨_, hoverlays, (hnames _ hoverlays).2.2⟩, (hresolve " prod ").1 (by decide), ?_⟩
  · obtain ⟨-, hrepeated⟩ := hshared [] [] rfl TwoFiles.exists_loadOverlay
    obtain ⟨p, hp, -, -, -, -, herror⟩ := hrepeated TwoFiles.not_namesDiffer
    rw [TwoFiles.overlayPaths_eq] at hp
    rw [herror, TwoFiles.stem_eq p hp]
    rfl
  · have hafter := Loader.Later.loadBase.follows.loadOverlays hoverlays
    rw [Loader.resolve_of_loaded hbase hafter]
    exact Nested.exists_resolve hkeyed hopen

end TaggedSuite
