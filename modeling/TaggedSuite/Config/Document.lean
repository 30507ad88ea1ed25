import TaggedSuite.Config.Error
import TaggedSuite.Files.Disk
import TaggedSuite.Json.Reader
import TaggedSuite.Text.Lower
import TaggedSuite.Yaml.Reader

/-!
# Settings files

A settings file holds one mapping. Its suffix tells the format, whatever the case of its letters.
-/
namespace TaggedSuite.SettingsFile

inductive Format where
  | yaml
  | json
  deriving DecidableEq, Repr

def Format.ofSuffix? (suffix : String) : Option Format :=
  match Text.lower suffix with
  | ".yaml" | ".yml" => some .yaml
  | ".json" => some .json
  | _ => none

/-- The value that a text in a format writes. The path is named in messages. -/
def Format.parse (f : Format) (path text : String) : Except ConfigError Value :=
  match f with
  | .yaml =>
    (Yaml.read text).mapError fun
      | .malformed => .unparsable path
      | .conversion f => .unconvertible f
  | .json =>
    (Json.readChars text.toList).mapError fun f =>
      match f.fault with
      | .numeral n => .unconvertible (.numeral n)
      | _ => .unparsable path

/-- The settings that a value stands for. Nothing at all stands for no settings. The path is named
in messages. -/
def settingsOf (path : String) : Value → Except ConfigError Entries
  | .scalar .null => .ok []
  | .map entries => .ok entries
  | v => .error (.notMapping v.bareKindName path)

/-- The settings in the file that a path leads to. -/
def read (disk : Disk) (p : Path) : Except ConfigError Entries :=
  match Format.ofSuffix? p.suffix with
  | none => .error (.unsupportedFormat p.suffix p.text)
  | some f =>
    match disk.read p with
    | none => .error (.unreadable p.text)
    | some text => f.parse p.text text >>= settingsOf p.text

/-- Whether the path leads to a file in one of the formats. -/
def isFile (disk : Disk) (p : Path) : Bool := disk.isFile p && (Format.ofSuffix? p.suffix).isSome

end TaggedSuite.SettingsFile
