import TaggedSuite.Proofs.Config.Validation
import TaggedSuite.Proofs.SideBySide

/-!
# Two loaders side by side

Two loaders do the same work, each with files of its own. What has to be shown of one file is that
to load it keeps the loaders in step and gives readings that go together. The rules here carry this
on to everything that loaders are asked for. What it is for two loaders to be in step, and for what
they give to go together, is left open.
-/
namespace TaggedSuite

variable {α β γ δ : Type}

/-- What it takes for two loaders to be in step. -/
structure Loader.Likeness where
  /-- Which loaders are in step. -/
  Loaders : Loader → Loader → Prop
  /-- Which errors go together. -/
  Errors : ConfigError → ConfigError → Prop
  /-- Whether both have to write the same to the log. -/
  SameLog : Prop

/-- The loaders are left in step, and what comes of the two pieces of work goes together. -/
structure Loading.Twins (like : Loader.Likeness) (Values : α → β → Prop) (x : Loading α)
    (y : Loading β) : Prop where
  loader : like.Loaders x.loader y.loader
  log : like.SameLog → y.log = x.log
  result : Outcomes like.Errors Values x.result y.result

namespace Loading.Twins

variable {like : Loader.Likeness} {Values : α → β → Prop} {Others : γ → δ → Prop} {x : Loading α}
  {y : Loading β} {l m : Loader} {log : List LogLine}

lemma of_ok {a : α} {b : β} (hloaders : like.Loaders l m) (h : Values a b) :
    Twins like Values ⟨l, log, .ok a⟩ ⟨m, log, .ok b⟩ := ⟨hloaders, fun _ => rfl, .ok h⟩

lemma of_error {e f : ConfigError} (hloaders : like.Loaders l m) (h : like.Errors e f) :
    Twins like Values ⟨l, log, .error e⟩ ⟨m, log, .error f⟩ :=
  ⟨hloaders, fun _ => rfl, .error h⟩

lemma of_outcomes {r : Except ConfigError α} {s : Except ConfigError β}
    (hloaders : like.Loaders l m) (h : Outcomes like.Errors Values r s) :
    Twins like Values ⟨l, log, r⟩ ⟨m, log, s⟩ := ⟨hloaders, fun _ => rfl, h⟩

lemma map {f : α → γ} {g : β → δ} (h : Twins like Values x y)
    (hfg : ∀ a b, Values a b → Others (f a) (g b)) : Twins like Others (x.map f) (y.map g) :=
  ⟨h.loader, h.log, h.result.map hfg⟩

/-- The same lines are written before. -/
lemma relog (log : List LogLine) (h : Twins like Values x y) :
    Twins like Values { x with log := log ++ x.log } { y with log := log ++ y.log } :=
  ⟨h.loader, fun hsame => congrArg (log ++ ·) (h.log hsame), h.result⟩

/-- Both go on in step. -/
lemma andThen {next : Loader → α → Loading γ} {next' : Loader → β → Loading δ}
    (h : Twins like Values x y)
    (hnext : ∀ l m a b, like.Loaders l m → Values a b → Twins like Others (next l a) (next' m b)) :
    Twins like Others (x.andThen next) (y.andThen next') := by
  obtain ⟨l, log, r⟩ := x
  obtain ⟨m, log', s⟩ := y
  obtain ⟨hloader, hlog, hresult⟩ := h
  cases hresult with
  | error he => exact ⟨hloader, hlog, .error he⟩
  | ok hvalues =>
    obtain ⟨hloader', hlog', hresult'⟩ := hnext l m _ _ hloader hvalues
    refine ⟨hloader', fun hsame => ?_, hresult'⟩
    exact congrArg₂ (· ++ ·) (hlog hsame) (hlog' hsame)

end Loading.Twins

namespace Loader

open Loading (Twins)

/-- Overlays of the same names with settings that go together. -/
def OverlaysOf (Settings : Entries → Entries → Prop) : Overlays → Overlays → Prop :=
  List.Forall₂ fun a b => b.1 = a.1 ∧ Settings a.2 b.2

/-- Loaders that look for a file at the same place load it in step if what is kept of it goes
together, and what is read there does. -/
lemma twins_loadPath {like : Likeness} {Readings : Reading → Reading → Prop} {l m : Loader}
    {disk disk' : Disk} {o : LoadOptions} (hlm : like.Loaders l m)
    (herrors : ∀ e, like.Errors e e) (hlocate : m.locate disk' = l.locate disk)
    (hdirectory : m.directory = l.directory)
    (hkept : ∀ p, Option.Rel Readings (l.remembered? disk p o) (m.remembered? disk' p o))
    (hread : ∀ p, Twins like Readings (l.readAt disk p o) (m.readAt disk' p o)) (file : Path)
    (text : String) :
    Twins like Readings (l.loadPath disk file text o) (m.loadPath disk' file text o) := by
  rw [loadPath, loadPath, hlocate, hdirectory]
  cases l.locate disk file with
  | none => exact .of_error hlm (herrors _)
  | some p =>
    have hfound := hkept p
    dsimp only
    rw [loadAt, loadAt]
    generalize l.remembered? disk p o = r? at hfound
    generalize m.remembered? disk' p o = r'? at hfound
    cases hfound with
    | none => exact hread p
    | some hr => exact .of_ok hlm hr

section
variable {Settings : Entries → Entries → Prop} {overlays overlays' : Overlays}

lemma OverlaysOf.names (h : OverlaysOf Settings overlays overlays') :
    overlays'.map (·.1) = overlays.map (·.1) :=
  keys_eq_of_rel (R := fun _ => Settings) h

lemma OverlaysOf.lookup (h : OverlaysOf Settings overlays overlays') (name : String) :
    Option.Rel Settings (overlays.lookup name) (overlays'.lookup name) :=
  rel_lookup (R := fun _ => Settings) h name

lemma OverlaysOf.isSome_lookup (h : OverlaysOf Settings overlays overlays') (name : String) :
    (overlays'.lookup name).isSome = (overlays.lookup name).isSome :=
  isSome_eq_of_rel (h.lookup name)

end

/-- Loaders that are in step look for the same files, and loads of these files keep them in step. So
do the references in what they hold. -/
structure Paired (like : Likeness) (Settings : Entries → Entries → Prop) (host host' : Host) :
    Prop where
  directory : ∀ {l m}, like.Loaders l m → m.directory = l.directory
  gather : ∀ {l m}, like.Loaders l m →
    Variables.gather host'.disk host'.processVariables m.variablesFile? m.variables? =
      Variables.gather host.disk host.processVariables l.variablesFile? l.variables?
  isFile : ∀ p, host'.disk.isFile p = host.disk.isFile p
  isDirectory : ∀ p, host'.disk.isDirectory p = host.disk.isDirectory p
  names : ∀ p, host'.disk.names p = host.disk.names p
  errors : ∀ e, like.Errors e e
  empty : Settings [] []
  load : ∀ {l m} (p : Path) (text : String), ∀ schema ∈ [Bundled.baseName, Bundled.overlayName],
    like.Loaders l m → Twins like (fun r s => Settings r.settings s.settings)
      (l.loadPath host.disk p text (.checked schema))
      (m.loadPath host'.disk p text (.checked schema))
  expand : ∀ {settings settings'} (vars : Variables) (source : String),
    Settings settings settings' → Outcomes like.Errors Settings
      (Expand.valueEntries vars source settings) (Expand.valueEntries vars source settings')

namespace Paired

variable {like : Likeness} {Settings : Entries → Entries → Prop} {host host' : Host}
  {l m : Loader}

lemma basePath? (h : Paired like Settings host host') (hlm : like.Loaders l m) :
    m.basePath? host'.disk = l.basePath? host.disk := by
  rw [basePath?_congr (h.directory hlm), Loader.basePath?, Loader.basePath?, funext h.isFile]

lemma environments (h : Paired like Settings host host') (hlm : like.Loaders l m) :
    m.environments = l.environments := by
  rw [Loader.environments, Loader.environments, h.directory hlm]

lemma overlayPaths (h : Paired like Settings host host') (hlm : like.Loaders l m) :
    m.overlayPaths host'.disk = l.overlayPaths host.disk := by
  have hfile : SettingsFile.isFile host'.disk = SettingsFile.isFile host.disk := by
    funext p
    rw [SettingsFile.isFile, SettingsFile.isFile, h.isFile]
  rw [Loader.overlayPaths, Loader.overlayPaths, h.environments hlm, h.names, hfile]

lemma loadBase (h : Paired like Settings host host') (hlm : like.Loaders l m) :
    Twins like Settings (l.loadBase host.disk) (m.loadBase host'.disk) := by
  rw [Loader.loadBase, Loader.loadBase, h.basePath? hlm]
  cases l.basePath? host.disk with
  | none =>
    rw [h.directory hlm]
    exact .of_ok hlm h.empty
  | some p => exact (h.load p p.text _ (by simp) hlm).map fun _ _ hsettings => hsettings

lemma loadOverlay (h : Paired like Settings host host') (vars : Variables) (p : Path)
    (hlm : like.Loaders l m) :
    Twins like Settings (l.loadOverlay host.disk vars p) (m.loadOverlay host'.disk vars p) :=
  (h.load p p.text _ (by simp) hlm).andThen fun _ _ _ _ hlm hsettings =>
    .of_outcomes hlm (h.expand vars p.text hsettings)

/-- The overlays so far have the same names. -/
lemma loadOverlaysAt (h : Paired like Settings host host') (vars : Variables) (paths : List Path)
    {loaded loaded' : Overlays} (hloaded : OverlaysOf Settings loaded loaded')
    (hlm : like.Loaders l m) :
    Twins like (OverlaysOf Settings) (l.loadOverlaysAt host.disk vars loaded paths)
      (m.loadOverlaysAt host'.disk vars loaded' paths) := by
  induction paths generalizing l m loaded loaded' with
  | nil => exact .of_ok hlm hloaded
  | cons p paths ih =>
    rw [Loader.loadOverlaysAt, Loader.loadOverlaysAt, hloaded.isSome_lookup, h.environments hlm]
    split_ifs
    · exact .of_error hlm (h.errors _)
    · refine (h.loadOverlay vars p hlm).andThen fun l m overlay overlay' hlm hsettings => ?_
      refine ih ?_ hlm
      exact List.rel_append hloaded (.cons ⟨rfl, hsettings⟩ .nil)

lemma loadOverlays (h : Paired like Settings host host') (hlm : like.Loaders l m) :
    Twins like (OverlaysOf Settings) (l.loadOverlays host) (m.loadOverlays host') := by
  rw [Loader.loadOverlays, Loader.loadOverlays, h.environments hlm, h.isDirectory, h.gather hlm,
    h.overlayPaths hlm]
  split_ifs
  · cases Variables.gather host.disk host.processVariables l.variablesFile? l.variables? with
    | error f => exact .of_error hlm (h.errors _)
    | ok gathered =>
      have hall := h.loadOverlaysAt gathered.1 (l.overlayPaths host.disk) .nil hlm
      refine Twins.relog gathered.2 (hall.andThen fun l m overlays overlays' hlm hoverlays => ?_)
      have hlog : overlaysLog overlays' = overlaysLog overlays := by
        rw [overlaysLog, overlaysLog, Overlays.names, Overlays.names, hoverlays.names,
          ← List.length_map (fun e : String × Entries => e.1), hoverlays.names, List.length_map]
      rw [hlog]
      exact .of_ok hlm hoverlays
  · exact .of_ok hlm .nil

/-- Configurations go together if they are resolved from settings that do. -/
lemma resolve {Configs : RunConfig → RunConfig → Prop} (h : Paired like Settings host host')
    (name : String)
    (hresolve : ∀ {base base' overlays overlays'}, Settings base base' →
      OverlaysOf Settings overlays overlays' → Outcomes like.Errors Configs
        (Overlays.resolve name base overlays) (Overlays.resolve name base' overlays'))
    (hlog : ∀ {base base' overlays overlays'}, Settings base base' →
      OverlaysOf Settings overlays overlays' → like.SameLog →
        Overlays.resolveLog name base' overlays' = Overlays.resolveLog name base overlays)
    (hlm : like.Loaders l m) : Twins like Configs (l.resolve host name) (m.resolve host' name) := by
  rw [Loader.resolve, Loader.resolve, h.directory hlm]
  refine Twins.relog [_] ((h.loadBase hlm).andThen fun l m base base' hlm hbase => ?_)
  refine (h.loadOverlays hlm).andThen fun l m overlays overlays' hlm hoverlays => ?_
  exact ⟨hlm, hlog hbase hoverlays, hresolve hbase hoverlays⟩

end Paired

end Loader

end TaggedSuite
