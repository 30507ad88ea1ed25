import TaggedSuite.Config.Merge
import TaggedSuite.Schema.Limit
import TaggedSuite.Text.Utf8
import TaggedSuite.Value.Conversion

/-!
# Configuration errors

Every way in which the configuration of a run can fail, with its wording. Errors that are not those
of a configuration as such are not reported like the others.
-/
namespace TaggedSuite

/-- Why a configuration cannot be had. -/
inductive ConfigError where
  /-- No overlay has the name; the names of all overlays are given in ascending order. -/
  | unknownEnvironment (name : String) (available : List String)
  | fileNotFound (file directory : String)
  | unsupportedFormat (suffix path : String)
  | unreadable (path : String)
  | unparsable (path : String)
  /-- A part of a file has no value. -/
  | unconvertible (f : ConversionFault)
  /-- The bytes of the file with variables are no text. -/
  | undecodable (f : Text.DecodingFault)
  | notMapping (kind path : String)
  | repeatedEnvironment (name directory : String)
  /-- A reference without a default names a variable that is not set. -/
  | unsetVariable (name source : String)
  | schemaNotFound (name directory : String)
  | schemaUnreadable (path : String)
  | schemaInvalid (path : String)
  /-- The schema uses a keyword that is not described here. -/
  | schemaBeyond (keyword path : String)
  /-- The data does not match the schema; every violation is listed. -/
  | violated (source schema : String) (violations : List String)
  /-- The data neither matches the schema nor fails to match it. -/
  | unchecked (f : CheckFault)
  /-- The settings of the files do not make a configuration. -/
  | unsettled (f : SettingsFault)
  deriving DecidableEq, Repr

def ConfigError.message : ConfigError → String
  | unknownEnvironment name available =>
    let listed := String.intercalate ", " available
    let known := if listed = "" then "none" else listed
    s!"Unknown environment '{name}'. Available environments: {known}"
  | fileNotFound file directory =>
    s!"Configuration file not found: {file} (looked in {directory} and the working directory)"
  | unsupportedFormat suffix path =>
    s!"Unsupported file format '{suffix}' for {path}. Supported: .yaml, .yml, .json"
  | unreadable path => s!"Failed to read {path}"
  | unparsable path => s!"Failed to parse {path}"
  | unconvertible f => f.message
  | undecodable f => f.message
  | notMapping kind path => s!"Configuration file must contain a mapping (dict), got {kind}: {path}"
  | repeatedEnvironment name directory =>
    s!"Environment '{name}' is defined more than once in {directory}"
  | unsetVariable name source =>
    let place := if source = "" then "" else s!" in {source}"
    s!"Environment variable '{name}' is not set{place} and has no default"
  | schemaNotFound name directory => s!"No schema named '{name}' in {directory}"
  | schemaUnreadable path => s!"Cannot read schema {path}"
  | schemaInvalid path => s!"Invalid schema {path}"
  | schemaBeyond keyword path => s!"Schema {path} uses '{keyword}', which is not described"
  | violated source schema violations =>
    let source := if source = "" then "Configuration" else source
    s!"{source} does not match {schema} ({violations.length} error(s)):\n" ++
      String.intercalate "\n" (violations.map fun v => s!"  - {v}")
  | unchecked f => f.message
  | unsettled f => f.message

/-- Whether the error is one of a configuration. Any other one is a fault of the program. -/
def ConfigError.isReported : ConfigError → Bool
  | unconvertible _ | undecodable _ | schemaBeyond .. | unchecked _ | unsettled _ => false
  | _ => true

end TaggedSuite
