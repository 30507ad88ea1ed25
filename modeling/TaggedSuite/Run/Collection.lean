import TaggedSuite.Files.Pattern
import TaggedSuite.Run.Basic
import TaggedSuite.Scan.Text
import TaggedSuite.Tag.Label

/-!
# Collecting tests

A test file is not loaded if the scan of its text shows that no test in it matches. Every test that
is collected runs, is reported as skipped or is dropped. A test with a label that is no tag stops
the collection.
-/
namespace TaggedSuite

structure TestItem where
  id : String
  markers : List (List Label)

namespace TestItem

/-- What follows the first pair of colons. -/
def afterColons : List Char → Option (List Char)
  | ':' :: ':' :: rest => some rest
  | _ :: rest => afterColons rest
  | [] => none

/-- The title of the test: its identifier without the file. -/
def title (i : TestItem) : String := String.ofList ((afterColons i.id.toList).getD i.id.toList)

def tagsOf : List (List Label) → Except TagError TagSet
  | [] => .ok .empty
  | arguments :: rest => do
    let tags ← TagSet.ofMarkerArguments arguments
    return tags.union (← tagsOf rest)

def tags (i : TestItem) : Except TagError TagSet := tagsOf i.markers

end TestItem

/-- Why a test cannot be decided. -/
inductive ItemFault where
  /-- A label of the test is no tag. -/
  | label (id : String) (error : TagError)
  /-- The title pattern is no text. -/
  | pattern (error : SelectionError)

namespace ItemFault

/-- The wording of the fault. Only a fault that is reported names the test. -/
def message : ItemFault → String
  | label id error => if error.isReported then s!"{id}: {error.message}" else error.message
  | pattern error => error.message

/-- Whether the test runner is told what is wrong with a test. Any other fault escapes. -/
def isReported : ItemFault → Bool
  | label _ error => error.isReported
  | pattern _ => false

end ItemFault

/-- How far the decisions have come: the tests that stay, those of them that got a mark to be
skipped, and the tests that are dropped. -/
structure Sorting where
  selected : List TestItem
  marked : List TestItem
  deselected : List TestItem

namespace Sorting

/-- No test is decided yet. -/
def start : Sorting := ⟨[], [], []⟩

/-- Puts a test where its decision says. -/
def add (p : Sorting) (i : TestItem) : Decision → Sorting
  | .run => { p with selected := p.selected ++ [i] }
  | .skip => { p with selected := p.selected ++ [i], marked := p.marked ++ [i] }
  | .omit => { p with deselected := p.deselected ++ [i] }

/-- Decides tests one after the other, up to the first fault. -/
def addAll (decideItem : TestItem → Except ItemFault Decision) (p : Sorting) :
    List TestItem → Sorting × Option ItemFault
  | [] => (p, none)
  | i :: rest =>
    match decideItem i with
    | .ok d => (p.add i d).addAll decideItem rest
    | .error f => (p, some f)

end Sorting

/-- What came of a collection. After a fault every test is still there. -/
structure Collection where
  kept : List TestItem
  /-- The tests that got a mark to be skipped, one for each mark. -/
  skipped : List TestItem
  /-- The lists of dropped tests that the test runner is told of, one for each time. -/
  told : List (List TestItem)
  fault? : Option ItemFault

namespace Collection

/-- The tests that the test runner is told to be dropped. -/
def omitted (c : Collection) : List TestItem := c.told.flatten

/-- What comes of deciding tests. The test runner is told of dropped tests once, and its list of
tests is only touched if there are any. -/
def ofItems (decideItem : TestItem → Except ItemFault Decision) (items : List TestItem) :
    Collection :=
  match Sorting.start.addAll decideItem items with
  | (p, some f) => ⟨items, p.marked, [], some f⟩
  | (p, none) =>
    if p.deselected.isEmpty then ⟨items, p.marked, [], none⟩
    else ⟨p.selected, p.marked, [p.deselected], none⟩

end Collection

namespace Selection

def decideItem (s : Selection) (i : TestItem) : Except ItemFault Decision :=
  match i.tags with
  | .ok tags => .ok (s.decide tags i.title)
  | .error e => .error (.label i.id e)

def collect (s : Selection) (items : List TestItem) : Collection := .ofItems s.decideItem items

end Selection

namespace RunSelection

/-- What happens to a collected test. -/
def decideItem (s : RunSelection) (i : TestItem) : Except ItemFault Decision :=
  match s, i.tags with
  | regular s, _ => s.decideItem i
  | loose _, .error e => .error (.label i.id e)
  | loose s, .ok tags => (s.decide tags i.title).mapError .pattern

def collect (s : RunSelection) (items : List TestItem) : Collection := .ofItems s.decideItem items

/-- Why a test is reported as skipped. -/
def skipReason (s : RunSelection) : String := s!"filtered out ({s.describe})"

end RunSelection

namespace TestRun

/-- What a finished collection writes to the log. -/
def collectionLog (r : TestRun) (c : Collection) : List LogLine :=
  let running := c.kept.length - c.skipped.length
  if c.fault?.isSome then []
  else [.info (s!"Tag filter applied: {running} to run, {c.skipped.length} skipped, " ++
    s!"{c.omitted.length} omitted, {r.ignored.length} spec file(s) not loaded")]

/-- Whether a path has the suffix and the name of a test file. -/
def isTestFile (settings : RunnerSettings) (p : Path) : Bool :=
  p.suffix == ".py" && settings.filePatterns.any fun pattern => FilePattern.fits pattern p.name

/-- Why it is left open whether a file is loaded. -/
inductive IgnoreError where
  | selection (e : SelectionError)
  | scan (e : Scan.ScanError)

/-- Whether no test in the file at a path can match. -/
def ignores (r : TestRun) (host : Host) (settings : RunnerSettings) (p : Path) :
    Except IgnoreError Bool := do
  if !r.selection.options.filterSpecs then return false
  if ← r.selection.isUniversal.mapError .selection then return false
  if !isTestFile settings p then return false
  let scan ← (Scan.scanContent (host.disk.read p)).mapError .scan
  if !scan.isExact then return false
  return !(← (r.selection.loads scan.pairs).mapError .selection)

/-- The run after a file that is not loaded. -/
def ignore (r : TestRun) (p : Path) : TestRun := { r with ignored := r.ignored ++ [p.text] }

/-- What a file that is not loaded writes to the log. -/
def ignoreLog (p : Path) : List LogLine :=
  [.info s!"Spec filtered out (no matching tests): {p.text}"]

end TestRun

end TaggedSuite
