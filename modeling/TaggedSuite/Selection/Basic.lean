import TaggedSuite.Filter.Eval
import TaggedSuite.Filter.Parser
import TaggedSuite.Filter.Printer
import TaggedSuite.Number.Numeral
import TaggedSuite.Selection.Title

/-!
# The selection of a run

A selection decides for each test whether it runs. It joins a filter over tags with a title pattern.
Two switches say what happens to the other tests: whether a file without any matching test is loaded
at all, and whether a test that does not match is dropped or reported as skipped.
-/
namespace TaggedSuite

/-- What happens to a collected test. -/
inductive Decision where
  | run
  | skip
  | omit
  deriving DecidableEq, Repr

def Decision.word : Decision → String
  | run => "run"
  | skip => "skip"
  | .omit => "omit"

/-- The two switches of a run. They are independent. -/
structure SelectionOptions where
  /-- A test file without a matching test is not loaded. -/
  filterSpecs : Bool
  /-- A test that does not match is dropped instead of being reported as skipped. -/
  omitFiltered : Bool
  deriving DecidableEq, Repr, Inhabited

/-- The selection of one run. The filter is what the raw text means. -/
structure Selection where
  raw : String
  filter : Filter
  titlePattern : String
  options : SelectionOptions
  parsed : Filter.parse raw = .ok filter

inductive SelectionError where
  | malformed (raw : String) (fault : Filter.Fault)
  /-- The filter or the title pattern is given by something that is not a text. -/
  | notText (kind : String) (missing : String)
  /-- The title pattern is given by bytes. -/
  | notBytes
  /-- The title pattern cannot even be shown. -/
  | unwritable
  /-- The settings that select tests are looked up in something that is no mapping. -/
  | notMapping (kind : String)
  deriving Repr

def SelectionError.message : SelectionError → String
  | malformed raw fault => fault.message raw
  | notText kind missing => s!"'{kind}' object has no attribute '{missing}'"
  | notBytes => "a bytes-like object is required, not 'str'"
  | unwritable => Numeral.unwritableText
  | notMapping kind => s!"'{kind}' object has no attribute 'get'"

/-- How messages show a truth value. -/
def switchText (b : Bool) : String := if b then "True" else "False"

/-- The filter, the title pattern and the switches of a selection in one line. -/
def selectionText (f : Filter) (titlePattern : String) (o : SelectionOptions) : String :=
  String.intercalate ", " <|
    [s!"tags={f.label}"] ++
    (if titlePattern = "" then [] else [s!"grep={titlePattern}"]) ++
    [s!"filterSpecs={switchText o.filterSpecs}", s!"omitFiltered={switchText o.omitFiltered}"]

/-- What is logged of a new selection. The title pattern is given as messages show it. -/
def selectionReadyText (f : Filter) (shownPattern : String) (o : SelectionOptions) : String :=
  s!"TagFilter ready: expr={Text.quoted f.label}, grep={shownPattern}, " ++
    s!"filter_specs={switchText o.filterSpecs}, omit_filtered={switchText o.omitFiltered}"

namespace Selection

/-- The selection of a filter text and a title pattern. -/
def ofTexts (raw titlePattern : String) (options : SelectionOptions) :
    Except SelectionError Selection :=
  match h : Filter.parse raw with
  | .ok filter => .ok ⟨raw, filter, titlePattern, options, h⟩
  | .error fault => .error (.malformed raw fault)

/-- Whether neither the filter nor the title pattern restricts the run. -/
def isUniversal (s : Selection) : Bool :=
  s.filter.isAll && s.titlePattern.toList.all Text.isBlank

/-- Whether a test with these tags and this title matches. -/
def isMatch (s : Selection) (tags : TagSet) (title : String) : Bool :=
  s.filter.eval tags && Title.fits s.titlePattern title

/-- What happens to a test with these tags and this title. -/
def decide (s : Selection) (tags : TagSet) (title : String) : Decision :=
  if s.isMatch tags title then .run
  else if s.options.omitFiltered then .omit
  else .skip

/-- Whether a test that has these tags and a title with this beginning may match. -/
def mayMatch (s : Selection) (tags : TagSet) (start : String) : Bool :=
  s.filter.eval tags && Title.mayFit s.titlePattern start

/-- Whether a file with these tests, given by the beginnings of their titles and their tags, has to
be loaded. -/
def loads (s : Selection) (tests : List (String × TagSet)) : Bool :=
  !s.options.filterSpecs || s.isUniversal || tests.any fun t => s.mayMatch t.2 t.1

def describe (s : Selection) : String := selectionText s.filter s.titlePattern s.options

/-- The line that a new selection writes to the log. -/
def readyText (s : Selection) : String :=
  selectionReadyText s.filter (Text.quoted s.titlePattern) s.options

end Selection

end TaggedSuite
