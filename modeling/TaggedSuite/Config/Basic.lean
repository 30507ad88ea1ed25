import TaggedSuite.Config.Error
import TaggedSuite.Config.Merge
import TaggedSuite.Log
import TaggedSuite.Session.Fingerprint
import TaggedSuite.Text.Blank
import TaggedSuite.Value.Freeze

/-!
# The configuration of a run

A run works with one read-only configuration: the base settings with the overlay of one environment
on top. A few surface fields are read off the settings once; the environment section goes before the
top level.
-/
namespace TaggedSuite

structure Credentials where
  identifier : String
  secret : String
  deriving DecidableEq, Repr, Inhabited

namespace Credentials

/-- Whether there is an actor to log in. -/
def isPresent (c : Credentials) : Bool := c.identifier != ""

def fingerprint (c : Credentials) : String := TaggedSuite.fingerprint c.identifier c.secret

/-- How messages show credentials; the secret never appears. -/
def shown (c : Credentials) : String := s!"Credentials(identifier={Text.quoted c.identifier})"

end Credentials

/-- The configuration of one run. The settings are read-only. -/
structure RunConfig where
  name : String
  baseUrl : String
  apiUrl : String
  label : String
  credentials : Credentials
  settings : Entries
  deriving Inhabited

/-- Why a configuration gives no answer. -/
inductive AccessError where
  | missingItem (key : Scalar)
  | noAttribute (name : String)
  | unhashable (kind : String)
  deriving DecidableEq, Repr

/-- The wording of an access error. The error about a key without a text has no wording. -/
def AccessError.message? : AccessError → Option String
  | missingItem key => key.shown?
  | noAttribute name => s!"'EffectiveConfig' has no attribute or setting {Text.quoted name}"
  | unhashable kind => s!"unhashable type: '{kind}'"

/-- The key that a value stands for, if it can be one. -/
def AccessError.keyOf (v : Value) : Except AccessError Scalar :=
  match v with
  | .scalar s => .ok s
  | v => .error (.unhashable v.kindName)

namespace RunConfig

/-- The entries of a setting that may be a mapping; anything else counts as a mapping without
entries. -/
def sectionEntries (v : Option Value) : Entries := (v.bind Value.entries?).getD []

/-- The environment section of changeable settings. -/
def envEntries (settings : Entries) : Entries := sectionEntries (settings.get? Settings.envKey)

/-- A setting of the environment section, or of the top level when the section has none or an empty
text. -/
def urlValue? (settings : Entries) (key : String) : Option Value :=
  match (envEntries settings).get? (.str key) with
  | some v => if v.isBlankText then settings.get? (.str key) else some v
  | none => settings.get? (.str key)

/-- That setting as a text. Nothing at all gives the empty text. -/
def url (settings : Entries) (key : String) : Except SettingsFault String :=
  match urlValue? settings key with
  | none | some (.scalar .null) => .ok ""
  | some v => SettingsFault.written v.plain?

/-- A setting of the environment section as a text, if it counts as true, or else a default. -/
def textOr (settings : Entries) (key default : String) : Except SettingsFault String :=
  match (envEntries settings).get? (.str key) with
  | some v => if v.truthy then SettingsFault.written v.plain? else .ok default
  | none => .ok default

/-- The configuration of changeable settings under an environment name. -/
def build (name : String) (settings : Entries) : Except SettingsFault RunConfig := do
  let baseUrl ← url settings "baseUrl"
  let apiUrl ← url settings "apiUrl"
  let label ← textOr settings "environment" name
  let identifier ← textOr settings "username" ""
  let secret ← textOr settings "password" ""
  return ⟨name, baseUrl, apiUrl, label, ⟨identifier, secret⟩, freezeEntries settings⟩

/-- What building a configuration writes to the log, also if it fails later on. -/
def buildLog (name : String) (settings : Entries) : List LogLine :=
  match url settings "baseUrl" with
  | .ok "" => [.warning s!"Environment '{name}' defines no baseUrl"]
  | _ => []

def settingsValue (c : RunConfig) : Value := .view c.settings

/-- Assigns to a place inside the settings: to the part under the key of what the path leads to. -/
def assignSetting (c : RunConfig) (path : List Scalar) (key : Scalar) (new : Value) :
    RunConfig × Except PlaceError Unit :=
  match c.settingsValue.assign (path ++ [key]) new with
  | .ok v => ({ c with settings := v.entries?.getD c.settings }, .ok ())
  | .error e => (c, .error e)

/-- The settings as a changeable copy. -/
def toEntries (c : RunConfig) : Entries := thawEntries c.settings

/-- The environment section, or an empty one. -/
def env (c : RunConfig) : Value := (c.settings.get? Settings.envKey).getD (.view [])

/-- The setting under a key. -/
def item (c : RunConfig) (key : Scalar) : Except AccessError Value :=
  match c.settings.get? key with
  | some v => .ok v
  | none => .error (.missingItem key)

/-- The setting under a key, or a default. -/
def getD (c : RunConfig) (key : Scalar) (default : Value) : Value :=
  (c.settings.get? key).getD default

/-- A field or setting by name. Names with a leading underscore are not looked up in the settings.
-/
def named (c : RunConfig) (name : String) : Except AccessError Value :=
  match name with
  | "name" => .ok (.str c.name)
  | "base_url" => .ok (.str c.baseUrl)
  | "api_url" => .ok (.str c.apiUrl)
  | "environment_label" => .ok (.str c.label)
  | "settings" => .ok c.settingsValue
  | "env" => .ok c.env
  | name =>
    match name.toList.head? == some '_', c.settings.get? (.str name) with
    | false, some v => .ok v
    | _, _ => .error (.noAttribute name)

/-- The configuration in one line; the secret never appears. -/
def text (c : RunConfig) : String :=
  let user := if c.credentials.identifier = "" then "-" else c.credentials.identifier
  s!"EffectiveConfig(env={c.name}, label={c.label}, base_url={c.baseUrl}, " ++
    s!"api_url={c.apiUrl}, user={user})"

/-- How messages show a configuration; neither settings nor secret appear. -/
def shown (c : RunConfig) : String :=
  s!"EffectiveConfig(name={Text.quoted c.name}, base_url={Text.quoted c.baseUrl}, " ++
    s!"api_url={Text.quoted c.apiUrl}, environment_label={Text.quoted c.label}, " ++
    s!"credentials={c.credentials.shown})"

/-- Puts one override over changeable settings. A mapping for the environment section is merged into
that section, which then has to be a mapping itself if it is there. Anything else is copied. -/
def overrideEntry (settings : Entries) (key : Scalar) (value : Value) :
    Except SettingsFault Entries :=
  match key == Settings.envKey, value.entries? with
  | true, some top =>
    match settings.get? key with
    | none => .ok (settings.insert key (.map (Entries.overlay [] top)))
    | some bottom =>
      match bottom.entries? with
      | some bottom => .ok (settings.insert key (.map (Entries.overlay bottom top)))
      | none => .error (.notMapping bottom.kindName)
  | _, _ => return settings.insert key (← value.copy)

/-- The settings with overrides, as changeable ones. -/
def overridden (c : RunConfig) (overrides : Entries) : Except SettingsFault Entries :=
  overrides.foldlM (fun acc e => overrideEntry acc e.1 e.2) c.toEntries

/-- A copy of the configuration with settings replaced. The configuration itself stays as it is. -/
def withOverrides (c : RunConfig) (overrides : Entries) : Except SettingsFault RunConfig := do
  build c.name (← c.overridden overrides)

/-- What overriding settings writes to the log. -/
def overrideLog (c : RunConfig) (overrides : Entries) : List LogLine :=
  match c.overridden overrides with
  | .ok settings => buildLog c.name settings
  | .error _ => []

end RunConfig

abbrev Overlays := List (String × Entries)

namespace Overlays

/-- The names in ascending order of code points. -/
def names (overlays : Overlays) : List String :=
  (overlays.map (·.1)).mergeSort fun a b => decide (a ≤ b)

/-- The configuration of the environment with a name, surrounding whitespace aside. -/
def resolve (name : String) (base : Entries) (overlays : Overlays) :
    Except ConfigError RunConfig :=
  let name := Text.strip name
  match overlays.lookup name with
  | some overlay =>
    (do RunConfig.build name (← Settings.merge base overlay)).mapError .unsettled
  | none => .error (.unknownEnvironment name overlays.names)

/-- What resolving writes to the log. -/
def resolveLog (name : String) (base : Entries) (overlays : Overlays) : List LogLine :=
  let name := Text.strip name
  match (overlays.lookup name).map (Settings.merge base) with
  | some (.ok settings) =>
    RunConfig.buildLog name settings ++
      match RunConfig.build name settings with
      | .ok c => [.info s!"Environment resolved: {c.text}"]
      | .error _ => []
  | _ => []

end Overlays

end TaggedSuite
