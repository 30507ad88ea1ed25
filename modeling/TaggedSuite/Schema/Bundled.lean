import TaggedSuite.Files.Disk
import TaggedSuite.Value.Basic

/-!
# Bundled schemas

Two schemas are at hand in every project: one for the base file and one for the overlays. They are
found in a directory of their own, whatever else is on disk.
-/
namespace TaggedSuite.Bundled

def directory : Path := ⟨.root, ["usr", "share", "suitekit", "schemas"]⟩

/-- The name of the schema for the base file. -/
def baseName : String := "base_schema"

def overlayName : String := "overlay_schema"

/-- A mapping whose keys are texts. -/
def fields (entries : List (String × Value)) : Value := .map (entries.map fun e => (.str e.1, e.2))

def kind (name : String) : Value := fields [("type", .str name)]

/-- The schema of integers that are not negative. -/
def count : Value := fields [("type", .str "integer"), ("minimum", .int 0)]

/-- The schema of mappings with schemas for some of their keys. -/
def record (properties : List (String × Value)) : Value :=
  fields [("type", .str "object"), ("properties", fields properties)]

/-- The schema of a whole file. -/
def document (title : String) (properties : List (String × Value)) : Value :=
  fields [("$schema", .str "http://json-schema.org/draft-07/schema#"), ("title", .str title),
    ("type", .str "object"), ("properties", fields properties)]

/-- The settings of an environment that say which tests run. -/
def selectionProperties : List (String × Value) :=
  [("grepTags", kind "string"), ("grep", kind "string"), ("grepFilterSpecs", kind "boolean"),
    ("grepOmitFiltered", kind "boolean")]

/-- The settings of an environment that say what is tested, and as whom. -/
def targetProperties : List (String × Value) :=
  [("baseUrl", kind "string"), ("apiUrl", kind "string"), ("environment", kind "string"),
    ("username", kind "string"), ("password", kind "string")]

/-- The schema of how often a test is run again: a number, or one for each mode. -/
def retries : Value :=
  fields [("oneOf", .list [count, record [("runMode", count), ("openMode", count)]])]

def baseProperties : List (String × Value) :=
  [("baseUrl", kind "string"), ("timeout", count), ("defaultCommandTimeout", count),
    ("requestTimeout", count), ("responseTimeout", count), ("pageLoadTimeout", count),
    ("retries", retries), ("reporterOptions", kind "object"), ("env", record selectionProperties)]

def base : Value := document "Suite base configuration" baseProperties

def overlayProperties : List (String × Value) :=
  [("baseUrl", kind "string"), ("env", record (targetProperties ++ selectionProperties))]

def overlay : Value := document "Environment overlay" overlayProperties

/-- The bundled documents by the names of their files. -/
def documents : List (String × Value) :=
  [(baseName ++ ".json", base), (overlayName ++ ".json", overlay)]

/-- The location that a path leads to when the directory of the bundled schemas is there. -/
def locate (disk : Disk) (p : Path) : Option Location :=
  { disk with directories := directory.parts :: disk.directories }.locate p

/-- The bundled document that a path leads to. -/
def document? (disk : Disk) (p : Path) : Option Value := do
  let l ← locate disk p
  (documents.map fun d => (directory.parts ++ [d.1], d.2)).lookup l

/-- The file names of the bundled documents, if a path leads to their directory. -/
def names (disk : Disk) (p : Path) : List String :=
  if locate disk p = some directory.parts then documents.map (·.1) else []

end TaggedSuite.Bundled
