import TaggedSuite.Number.Numeral
import TaggedSuite.Value.Basic

/-!
# Merging an overlay onto base settings

Every setting of the overlay replaces the base setting as a whole. The environment section is the
one exception: when both sides have it as a mapping, its entries are merged one by one. Nothing is
shared with either side, so all values are copied, and a read-only mapping cannot be copied.
-/
namespace TaggedSuite

/-- Why settings do not come together. -/
inductive SettingsFault where
  /-- Something that is not a mapping stands where entries are merged. -/
  | notMapping (kind : String)
  /-- A read-only mapping would have to be copied. -/
  | uncopyable
  /-- An integer with too many digits is asked for as a text. -/
  | unwritable
  deriving DecidableEq, Repr

def SettingsFault.message : SettingsFault → String
  | notMapping kind => s!"'{kind}' object is not a mapping"
  | uncopyable => "cannot pickle 'mappingproxy' object"
  | unwritable => Numeral.unwritableText

/-- A text that may not be there. -/
def SettingsFault.written (text? : Option String) : Except SettingsFault String :=
  text?.elim (.error .unwritable) .ok

mutual

/-- Whether a value can be copied: there is no read-only mapping in it. -/
def Value.isCopyable : Value → Bool
  | .scalar _ | .set _ => true
  | .list items | .tuple items => areCopyable items
  | .map entries => haveCopies entries
  | .view _ => false

/-- Whether all items can be copied. -/
def areCopyable : List Value → Bool
  | [] => true
  | v :: rest => v.isCopyable && areCopyable rest

/-- Whether the values of all entries can be copied. -/
def haveCopies : List (Scalar × Value) → Bool
  | [] => true
  | (_, v) :: rest => v.isCopyable && haveCopies rest

end

/-- A copy of a value. -/
def Value.copy (v : Value) : Except SettingsFault Value :=
  if v.isCopyable then .ok v else .error .uncopyable

/-- A copy of entries. -/
def Entries.copy (entries : Entries) : Except SettingsFault Entries :=
  if haveCopies entries then .ok entries else .error .uncopyable

namespace Settings

/-- The key of the environment section. -/
def envKey : Scalar := .str "env"

/-- Puts one setting of an overlay over the settings so far. -/
def mergeEntry (settings : Entries) (key : Scalar) (value : Value) :
    Except SettingsFault Entries :=
  match key == envKey, value.entries?, (settings.get? key).bind Value.entries? with
  | true, some top, some bottom =>
    return settings.insert key (.map (Entries.overlay bottom (← Entries.copy top)))
  | _, _, _ => return settings.insert key (← value.copy)

/-- The base settings with an overlay on top. -/
def merge (base overlay : Entries) : Except SettingsFault Entries := do
  overlay.foldlM (fun acc entry => mergeEntry acc entry.1 entry.2) (← Entries.copy base)

end Settings

end TaggedSuite
