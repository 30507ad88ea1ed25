import TaggedSuite.Selection.Basic
import TaggedSuite.Value.Printer

/-!
# Selections that settings give

Settings may give a filter or a title pattern by something that is not a text. A setting that counts
as false stands for the empty text. Any other title pattern is taken as it is, and the selection
fails only when it comes to use the pattern as a text; a filter is read at once. What the tags of a
test settle does not depend on the title pattern.
-/
namespace TaggedSuite

/-- Whether the bytes are all whitespace of ASCII. -/
def areBlankBytes (bs : List UInt8) : Bool := bs.all fun b => Numeral.isGap (Char.ofNat b.toNat)

/-- The filter that a setting means. Bytes cannot be read unless they are blank. -/
def Filter.ofSetting : Value → Except SelectionError Filter
  | .scalar (.str s) => (Filter.parse s).mapError (.malformed s)
  | .scalar (.bytes bs) => if areBlankBytes bs then .ok .all else .error (.notText "int" "isspace")
  | v => .error (.notText v.kindName "strip")

/-- A selection of settings that need not be texts. -/
structure LooseSelection where
  raw : Value
  filter : Filter
  titlePattern : Value
  options : SelectionOptions
  parsed : Filter.ofSetting raw = .ok filter
  /-- The title pattern has been shown in the log. -/
  isShown : titlePattern.shown?.isSome = true

namespace LooseSelection

def isBlankPattern (s : LooseSelection) : Except SelectionError Bool :=
  match s.titlePattern with
  | .scalar (.str pattern) => .ok (pattern.toList.all Text.isBlank)
  | .scalar (.bytes bs) => .ok (areBlankBytes bs)
  | v => .error (.notText v.kindName "strip")

/-- Holds the title pattern against a title. -/
def holdAgainst (s : LooseSelection) (fits : String → Bool) : Except SelectionError Bool :=
  match s.titlePattern with
  | .scalar (.str pattern) => .ok (fits pattern)
  | .scalar (.bytes _) => .error .notBytes
  | v => .error (.notText v.kindName "split")

/-- Whether neither the filter nor the title pattern restricts the run. -/
def isUniversal (s : LooseSelection) : Except SelectionError Bool :=
  if s.filter.isAll then s.isBlankPattern else .ok false

/-- Whether a test with these tags and this title matches. -/
def isMatch (s : LooseSelection) (tags : TagSet) (title : String) : Except SelectionError Bool :=
  if s.filter.eval tags then s.holdAgainst fun pattern => Title.fits pattern title else .ok false

/-- What happens to a test with these tags and this title. -/
def decide (s : LooseSelection) (tags : TagSet) (title : String) :
    Except SelectionError Decision := do
  if ← s.isMatch tags title then return .run
  else if s.options.omitFiltered then return .omit
  else return .skip

/-- Whether a test that has these tags and a title with this beginning may match. -/
def mayMatch (s : LooseSelection) (tags : TagSet) (start : String) : Except SelectionError Bool :=
  if s.filter.eval tags then s.holdAgainst fun pattern => Title.mayFit pattern start else .ok false

/-- Whether a file with these tests has to be loaded. -/
def loads (s : LooseSelection) (tests : List (String × TagSet)) : Except SelectionError Bool := do
  if !s.options.filterSpecs then return true
  else if ← s.isUniversal then return true
  else tests.anyM fun t => s.mayMatch t.2 t.1

def describe (s : LooseSelection) : String :=
  selectionText s.filter (s.titlePattern.plain?.get (s.titlePattern.isSome_plain?.trans s.isShown))
    s.options

/-- The line that a new selection writes to the log. -/
def readyText (s : LooseSelection) : String :=
  selectionReadyText s.filter (s.titlePattern.shown?.get s.isShown) s.options

/-- The selection of settings, none of which counts as false unless it is the empty text. -/
def ofSettings (raw titlePattern : Value) (options : SelectionOptions) :
    Except SelectionError LooseSelection :=
  match hraw : Filter.ofSetting raw, hpattern : titlePattern.shown? with
  | .ok filter, some _ => .ok ⟨raw, filter, titlePattern, options, hraw, by rw [hpattern]; rfl⟩
  | .error e, _ => .error e
  | .ok _, none => .error .unwritable

end LooseSelection

/-- The selection of a run. -/
inductive RunSelection where
  | regular (s : Selection)
  | loose (s : LooseSelection)

namespace RunSelection

def ofSettings (raw titlePattern : Value) (options : SelectionOptions) :
    Except SelectionError RunSelection :=
  let raw := if raw.truthy then raw else .str ""
  let titlePattern := if titlePattern.truthy then titlePattern else .str ""
  match raw, titlePattern with
  | .scalar (.str raw), .scalar (.str titlePattern) =>
    (Selection.ofTexts raw titlePattern options).map .regular
  | raw, titlePattern => (LooseSelection.ofSettings raw titlePattern options).map .loose

def filter : RunSelection → Filter
  | regular s => s.filter
  | loose s => s.filter

def options : RunSelection → SelectionOptions
  | regular s => s.options
  | loose s => s.options

/-- Whether neither the filter nor the title pattern restricts the run. -/
def isUniversal : RunSelection → Except SelectionError Bool
  | regular s => .ok s.isUniversal
  | loose s => s.isUniversal

/-- Whether a test with these tags and this title matches. -/
def isMatch (s : RunSelection) (tags : TagSet) (title : String) : Except SelectionError Bool :=
  match s with
  | regular s => .ok (s.isMatch tags title)
  | loose s => s.isMatch tags title

/-- What happens to a test with these tags and this title. -/
def decide (s : RunSelection) (tags : TagSet) (title : String) : Except SelectionError Decision :=
  match s with
  | regular s => .ok (s.decide tags title)
  | loose s => s.decide tags title

/-- Whether a file with these tests has to be loaded. -/
def loads (s : RunSelection) (tests : List (String × TagSet)) : Except SelectionError Bool :=
  match s with
  | regular s => .ok (s.loads tests)
  | loose s => s.loads tests

def describe : RunSelection → String
  | regular s => s.describe
  | loose s => s.describe

/-- The line that a new selection writes to the log. -/
def readyText : RunSelection → String
  | regular s => s.readyText
  | loose s => s.readyText

end RunSelection

end TaggedSuite
