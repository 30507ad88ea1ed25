import TaggedSuite.Config.Error
import TaggedSuite.Json.Reader
import TaggedSuite.Log
import TaggedSuite.Schema.Bundled
import TaggedSuite.Schema.Document

/-!
# The registry of schemas

A registry finds schemas by name in one directory. The file of a schema is read at the first look-up
that succeeds; from then on the registry keeps to what it read.
-/
namespace TaggedSuite

/-- A schema with the document that it was read from. -/
structure CompiledSchema where
  document : Value
  schema : Schema

namespace CompiledSchema

/-- What is wrong with a value, one line for each violation, in the order of their places. -/
def problems (c : CompiledSchema) (v : Value) : Except CheckFault (List String) :=
  c.schema.problems v

end CompiledSchema

/-- The schemas of one directory that have been read so far. -/
structure SchemaRegistry where
  directory : Path
  compiled : List (String × CompiledSchema)

namespace SchemaRegistry

/-- A registry of the schemas in a directory, or of the bundled ones without a directory. -/
def ofDirectory? (directory? : Option Path) : SchemaRegistry :=
  ⟨directory?.getD Bundled.directory, []⟩

def path (r : SchemaRegistry) (name : String) : Path :=
  r.directory.append (.ofText (name ++ ".json"))

/-- The document of the schema with a name. -/
def readDocument (r : SchemaRegistry) (disk : Disk) (name : String) : Except ConfigError Value :=
  let p := r.path name
  match Bundled.document? disk p with
  | some v => .ok v
  | none =>
    if !disk.isFile p then .error (.schemaNotFound name r.directory.text)
    else match (disk.read p).map Json.read with
      | some (.ok v) => .ok v
      | _ => .error (.schemaUnreadable p.text)

/-- The schema with a name, as it is found on disk. -/
def compile (r : SchemaRegistry) (disk : Disk) (name : String) :
    Except ConfigError CompiledSchema := do
  let document ← r.readDocument disk name
  match Schema.ofValue document with
  | .ok schema => return ⟨document, schema⟩
  | .error .invalid => throw (.schemaInvalid (r.path name).text)
  | .error (.beyond keyword) => throw (.schemaBeyond keyword (r.path name).text)

/-- What came of a look-up: the registry after it, what it wrote to the log, and the schema. -/
structure Lookup where
  registry : SchemaRegistry
  log : List LogLine
  result : Except ConfigError CompiledSchema

def find (r : SchemaRegistry) (disk : Disk) (name : String) : Lookup :=
  match r.compiled.lookup name with
  | some c => ⟨r, [], .ok c⟩
  | none =>
    match r.compile disk name with
    | .ok c =>
      ⟨{ r with compiled := (name, c) :: r.compiled },
        [.debug s!"Schema compiled: {name} ({(r.path name).text})"], .ok c⟩
    | .error e => ⟨r, [], .error e⟩

/-- Refuses a value that does not match the schema with a name. The source says where it is from. -/
def check (c : CompiledSchema) (name source : String) (v : Value) : Except ConfigError Unit :=
  match c.problems v with
  | .ok [] => .ok ()
  | .ok problems => .error (.violated source name problems)
  | .error f => .error (.unchecked f)

/-- The end of the name of a schema's file. -/
def fileEnding : String := ".json"

def isSchemaName (name : String) : Bool := fileEnding.toList.isSuffixOf name.toList

/-- The names of the schemas in the directory, in ascending order. -/
def names (r : SchemaRegistry) (disk : Disk) : List String :=
  let files := Bundled.names disk r.directory ++ disk.names r.directory
  ((files.filter isSchemaName).map FileName.stem).mergeSort fun a b => decide (a ≤ b)

end SchemaRegistry

end TaggedSuite
