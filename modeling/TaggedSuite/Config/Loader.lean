import TaggedSuite.Config.Basic
import TaggedSuite.Config.Document
import TaggedSuite.Config.VariablesFile
import TaggedSuite.Schema.Registry

/-!
# Loading a configuration

A directory of settings holds a base file and, in a directory of its own, one overlay for each
environment. A loader reads these files, checks them against their schemas and keeps what it has
read until it is told to forget it.
-/
namespace TaggedSuite

/-- What a run finds: the files, and the variables of its process. -/
structure Host where
  disk : Disk
  processVariables : Variables
  deriving Inhabited

/-- What a settings file held when it was read. Two readings of a loader have different numbers. -/
structure Reading where
  number : Nat
  settings : Entries
  deriving Inhabited

structure Loader where
  directory : Path
  /-- The file with variables that overlays may refer to. -/
  variablesFile? : Option Path
  /-- Variables that stand in for those of the process. -/
  variables? : Option Variables
  registry : SchemaRegistry
  /-- The readings that are kept, by the location of their file. -/
  kept : List (Location × Reading)
  /-- How many files have been read. -/
  readings : Nat

/-- What came of loading: the loader after it, what it wrote to the log, and a value. -/
structure Loading (α : Type) where
  loader : Loader
  log : List LogLine
  result : Except ConfigError α

namespace Loading

/-- Goes on with the value, unless there is none. -/
def andThen {α β : Type} (x : Loading α) (next : Loader → α → Loading β) : Loading β :=
  match x.result with
  | .error e => ⟨x.loader, x.log, .error e⟩
  | .ok a =>
    let y := next x.loader a
    ⟨y.loader, x.log ++ y.log, y.result⟩

/-- Applies a function to the value. -/
def map {α β : Type} (f : α → β) (x : Loading α) : Loading β := ⟨x.loader, x.log, x.result.map f⟩

end Loading

structure LoadOptions where
  /-- The schema that the settings have to match. -/
  schema? : Option String
  validate : Bool
  /-- Whether what was read before will do, and what is read now is kept. -/
  useCache : Bool
  deriving DecidableEq, Repr

namespace LoadOptions

/-- The way in which the files of a configuration are loaded. -/
def checked (schema : String) : LoadOptions := ⟨some schema, true, true⟩

/-- The schema that is checked. An empty name stands for none. -/
def schemaToCheck (o : LoadOptions) : Option String :=
  if o.validate then o.schema?.filter (· != "") else none

end LoadOptions

namespace Loader

/-- A loader that has not read anything. -/
def new (directory : Path) (schemas? variablesFile? : Option Path)
    (variables? : Option Variables) : Loader :=
  ⟨directory, variablesFile?, variables?, .ofDirectory? schemas?, [], 0⟩

/-- What a new loader writes to the log. -/
def newLog (l : Loader) : List LogLine :=
  [.debug s!"ConfigLoader initialized: config_dir={l.directory.text}"]

/-- The directory of the overlays. -/
def environments (l : Loader) : Path := l.directory.below "environments"

/-- Where a file is: in the directory of the loader, or else where its path leads to. -/
def locate (l : Loader) (disk : Disk) (file : Path) : Option Path :=
  [l.directory.append file, file].find? disk.isFile

/-- Checks settings against the schema with a name. -/
def check (l : Loader) (disk : Disk) (name source : String) (settings : Entries) : Loading Unit :=
  let found := l.registry.find disk name
  ⟨{ l with registry := found.registry }, found.log,
    found.result.bind fun c => SchemaRegistry.check c name source (.map settings)⟩

/-- Checks settings against a schema if there is one. -/
def checkAny (l : Loader) (disk : Disk) (schema? : Option String) (source : String)
    (settings : Entries) : Loading Unit :=
  match schema? with
  | some name => l.check disk name source settings
  | none => ⟨l, [], .ok ()⟩

/-- Keeps a reading of the file at a location. -/
def keep (l : Loader) (place : Location) (r : Reading) : Loader :=
  { l with kept := (place, r) :: l.kept }

/-- Reads the file at a path and checks what it holds. Only what passes is kept. -/
def readAt (l : Loader) (disk : Disk) (p : Path) (o : LoadOptions) : Loading Reading :=
  match SettingsFile.read disk p with
  | .error e => ⟨l, [], .error e⟩
  | .ok settings =>
    let r : Reading := ⟨l.readings, settings⟩
    let l := { l with readings := l.readings + 1 }
    (l.checkAny disk o.schemaToCheck p.text settings).andThen fun l _ =>
      ⟨if o.useCache then l.keep (disk.resolve p) r else l,
        [.debug s!"Loaded {p.text} ({settings.length} key(s))"], .ok r⟩

/-- What is kept of the file at a path, if that will do. -/
def remembered? (l : Loader) (disk : Disk) (p : Path) (o : LoadOptions) : Option Reading :=
  if o.useCache then l.kept.lookup (disk.resolve p) else none

/-- Loads the file at a path. What is kept of it is not checked again. -/
def loadAt (l : Loader) (disk : Disk) (p : Path) (o : LoadOptions) : Loading Reading :=
  match l.remembered? disk p o with
  | some r => ⟨l, [], .ok r⟩
  | none => l.readAt disk p o

/-- Loads a file by its path. The text is what messages call it. -/
def loadPath (l : Loader) (disk : Disk) (file : Path) (text : String) (o : LoadOptions) :
    Loading Reading :=
  match l.locate disk file with
  | some p => l.loadAt disk p o
  | none => ⟨l, [], .error (.fileNotFound text l.directory.text)⟩

def load (l : Loader) (disk : Disk) (file : String) (o : LoadOptions) : Loading Reading :=
  l.loadPath disk (.ofText file) file o

/-- The names that a base file can have. Earlier ones go first. -/
def baseNames : List String := ["base.yaml", "base.yml", "base.json"]

def basePath? (l : Loader) (disk : Disk) : Option Path :=
  (baseNames.map l.directory.below).find? disk.isFile

/-- Loads the base settings. Without a base file there are none. -/
def loadBase (l : Loader) (disk : Disk) : Loading Entries :=
  match basePath? l disk with
  | some p => (l.loadPath disk p p.text (.checked Bundled.baseName)).map (·.settings)
  | none =>
    ⟨l, [.warning (s!"No base.yaml/.yml/.json in {l.directory.text}, " ++
      "using an empty base configuration")], .ok []⟩

/-- The paths of the overlays in ascending order. -/
def overlayPaths (l : Loader) (disk : Disk) : List Path :=
  ((disk.names l.environments).map l.environments.below).filter (SettingsFile.isFile disk)

/-- The names of the environments with an overlay, each once and in ascending order. -/
def available (l : Loader) (disk : Disk) : List String :=
  ((l.overlayPaths disk).map Path.stem).eraseDups.mergeSort fun a b => decide (a ≤ b)

/-- Loads the overlay at a path and puts values in the place of its references. -/
def loadOverlay (l : Loader) (disk : Disk) (vars : Variables) (p : Path) : Loading Entries :=
  (l.loadPath disk p p.text (.checked Bundled.overlayName)).andThen fun l r =>
    ⟨l, [], Expand.valueEntries vars p.text r.settings⟩

/-- Loads the overlays at paths after others. -/
def loadOverlaysAt (l : Loader) (disk : Disk) (vars : Variables) (loaded : Overlays) :
    List Path → Loading Overlays
  | [] => ⟨l, [], .ok loaded⟩
  | p :: rest =>
    if (loaded.lookup p.stem).isSome then
      ⟨l, [], .error (.repeatedEnvironment p.stem l.environments.text)⟩
    else
      (l.loadOverlay disk vars p).andThen fun l overlay =>
        l.loadOverlaysAt disk vars (loaded ++ [(p.stem, overlay)]) rest

/-- What loading overlays writes to the log at its end. -/
def overlaysLog (overlays : Overlays) : List LogLine :=
  [.debug (s!"Loaded {overlays.length} environment overlay(s): " ++
    Text.quotedList overlays.names)]

def loadOverlays (l : Loader) (host : Host) : Loading Overlays :=
  if host.disk.isDirectory l.environments then
    match Variables.gather host.disk host.processVariables l.variablesFile? l.variables? with
    | .error f => ⟨l, [], .error (.undecodable f)⟩
    | .ok (vars, log) =>
      let found := l.loadOverlaysAt host.disk vars [] (l.overlayPaths host.disk)
      let found := found.andThen fun l overlays => ⟨l, overlaysLog overlays, .ok overlays⟩
      { found with log := log ++ found.log }
  else ⟨l, [.warning s!"No environments directory at {l.environments.text}"], .ok []⟩

/-- The configuration of the environment with a name. -/
def resolve (l : Loader) (host : Host) (name : String) : Loading RunConfig :=
  let found := (l.loadBase host.disk).andThen fun l base =>
    (l.loadOverlays host).andThen fun l overlays =>
      ⟨l, Overlays.resolveLog name base overlays, Overlays.resolve name base overlays⟩
  let opening : LogLine := .info s!"Resolving environment '{name}' from {l.directory.text}"
  { found with log := opening :: found.log }

def clearCache (l : Loader) : Loader := { l with kept := [] }

end Loader

end TaggedSuite
