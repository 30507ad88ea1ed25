import TaggedSuite.Levels
import TaggedSuite.Scan.Finding
import TaggedSuite.Source.Tree
import TaggedSuite.Tag.Set

/-!
# Reading the tags of a module

The scan lists the tests of a module with the tags that their decorators and the marks of their
classes and of the module give them. Whatever can give a test other tags is reported as a finding; a
scan without findings is exact.
-/
namespace TaggedSuite.Scan
open Source

/-- A test with its effective tags. The title is the path of names that leads to it. -/
structure ScannedTest where
  title : String
  tags : TagSet
  deriving DecidableEq

structure Result where
  tests : List ScannedTest
  findings : List Finding

namespace Result

/-- Whether nothing can give a test other tags. -/
def isExact (r : Result) : Bool := r.findings.isEmpty

/-- The tests as titles with tags. -/
def pairs (r : Result) : List (String × TagSet) := r.tests.map fun t => (t.title, t.tags)

end Result

/-- The name that holds the marks of a module or class. -/
def marksName : String := "pytestmark"

/-- The name of the marker that declares tags. -/
def tagsMarker : String := "tags"

/-- Methods that add a marker while tests run or are collected. -/
def dynamicMethods : List String := ["add_marker", "applymarker"]

/-- Whether the expression is the name that holds marks. -/
def isMarksName : Expr → Bool
  | .name _ id => id == marksName
  | _ => false

/-- Whether the expression is the class that has no marks to inherit. -/
def isPlainBase : Expr → Bool
  | .name _ id => id == "object"
  | _ => false

/-- Whether the expression is the namespace of marks, under its full name or its own. -/
def isMarkNamespace : Expr → Bool
  | .name _ id => id == "mark"
  | .attribute _ (.name _ id) attr => attr == "mark" && id == "pytest"
  | _ => false

/-- Whether the expression is a mark of the namespace. -/
def isMark : Expr → Bool
  | .attribute _ value _ => isMarkNamespace value
  | _ => false

/-- Whether the expression is the mark that declares tags. -/
def isTagsMark : Expr → Bool
  | .attribute _ value attr => isMarkNamespace value && attr == tagsMarker
  | _ => false

/-- The value of a string constant. -/
def textValue? : Expr → Option String
  | .text _ value => some value
  | _ => none

/-- The labels of one argument of the tags mark: a string constant, or a display of string
constants. -/
def argumentLabels? : Expr → Option (List String)
  | .text _ value => some [value]
  | .display _ _ items => items.mapM textValue?
  | _ => none

/-- The tags that a call of the tags mark declares, and what is wrong with it. -/
def markArguments (line : Nat) (args : List Expr) : TagSet × List Finding :=
  let computed := args.filter fun a => (argumentLabels? a).isNone
  let found := computed.map fun a => ⟨.computedArgument, some a.line⟩
  match (args.filterMap argumentLabels?).flatten.mapM Tag.parse with
  | .ok tags => (TagSet.ofList tags, found)
  | .error _ => (.empty, found ++ [⟨.invalidTag, some line⟩])

/-- Joins tags and findings of several parts in order. -/
def gather (parts : List (TagSet × List Finding)) : TagSet × List Finding :=
  (TagSet.empty.unionAll (parts.map (·.1)), (parts.map (·.2)).flatten)

/-- A mark that is not the tags mark declares no tags, with or without arguments. -/
def markWithoutTags (e : Expr) : TagSet × List Finding :=
  if isMark e then (.empty, []) else (.empty, [⟨.unresolvedMark, some e.line⟩])

mutual

/-- The tags that a decorator or the value of marks declares, and what cannot be read of it. -/
def marks : Expr → TagSet × List Finding
  | .display line kind items =>
    match kind with
    | .list | .tuple => gather (marksEach items)
    | .set => (.empty, [⟨.unresolvedMark, some line⟩])
  | .call line func args _ =>
    if isTagsMark func then markArguments line args
    else if isMark func then (.empty, [])
    else (.empty, [⟨.unresolvedMark, some line⟩])
  | e => markWithoutTags e

/-- What `marks` gives for each of several expressions. -/
def marksEach : List Expr → List (TagSet × List Finding)
  | [] => []
  | e :: rest => marks e :: marksEach rest

end

def decoratorTags (decorators : List Expr) : TagSet × List Finding := gather (marksEach decorators)

/-- What one statement adds to the marks of the body that it stands in. -/
def statementMarks : Stmt → TagSet × List Finding
  | .assign _ targets value => if targets.any isMarksName then marks value else (.empty, [])
  | .annotated _ target _ (some value) => if isMarksName target then marks value else (.empty, [])
  | .augmented line target _ =>
    if isMarksName target then (.empty, [⟨.extendedMarks, some line⟩]) else (.empty, [])
  | .expression line (.call _ (.attribute _ value attr) _ _) =>
    if isMarksName value then (.empty, [⟨.marksMethod attr, some line⟩]) else (.empty, [])
  | _ => (.empty, [])

/-- The tags that the marks of a module or class body declare. -/
def bodyTags (body : List Stmt) : TagSet × List Finding := gather (body.map statementMarks)

/-- Whether a name begins with the given characters. -/
def beginsWith (start name : String) : Bool := start.toList.isPrefixOf name.toList

/-- Whether tests are looked for in a class of this name. -/
def isTestClassName (name : String) : Bool := beginsWith "Test" name

/-- Whether a function of this name is a test. -/
def isTestName (name : String) : Bool := beginsWith "test" name

mutual

/-- The tests that a statement defines, inside groups with the given tags. `path` is the path of
names of the groups. -/
def testsOf (groupTags : TagSet) (path : String) : Stmt → Result
  | .classDef line name bases _ body decorators =>
    if isTestClassName name then
      let inherited : List Finding :=
        if bases.all isPlainBase then [] else [⟨.inheritedMarks name, some line⟩]
      let declared := decoratorTags decorators
      let marked := bodyTags body
      let tags := groupTags.unionAll [declared.1, marked.1]
      let inner := testsOfBody tags (path ++ name ++ "::") body
      ⟨inner.tests, inherited ++ declared.2 ++ marked.2 ++ inner.findings⟩
    else ⟨[], []⟩
  | .functionDef _ name _ _ decorators _ =>
    if isTestName name then
      let declared := decoratorTags decorators
      ⟨[⟨path ++ name, groupTags.union declared.1⟩], declared.2⟩
    else ⟨[], []⟩
  | _ => ⟨[], []⟩

/-- The tests that the statements of a body define, in order. -/
def testsOfBody (groupTags : TagSet) (path : String) : List Stmt → Result
  | [] => ⟨[], []⟩
  | s :: rest =>
    let first := testsOf groupTags path s
    let others := testsOfBody groupTags path rest
    ⟨first.tests ++ others.tests, first.findings ++ others.findings⟩

end

/-- What the expression itself reports, whatever stands inside it. -/
def expressionFindings : Expr → List Finding
  | .keyword _ (some arg) value => if arg == "marks" then [⟨.marksKeyword, some value.line⟩] else []
  | .call line (.attribute _ _ attr) _ _ =>
    if dynamicMethods.contains attr then [⟨.dynamicMarker attr, some line⟩] else []
  | _ => []

/-- Whether an imported name is given another name. -/
def renamed? (wanted : String) (n : ImportedName) : Option String :=
  match n.alias? with
  | some given => if n.name == wanted && given != wanted then some given else none
  | none => none

def importFindings : Stmt → List Finding
  | .imports line names =>
    (names.filterMap (renamed? "pytest")).map fun given => ⟨.testingAlias given, some line⟩
  | .importFrom line module? names =>
    if module? == some "pytest" then
      (names.filterMap (renamed? "mark")).map fun given => ⟨.markAlias given, some line⟩
    else []
  | _ => []

mutual

/-- The findings of an expression and of its parts, by their depth. -/
def expressionLevels : Expr → List (List Finding)
  | .name .. | .text .. => []
  | .attribute _ value _ => [] :: expressionLevels value
  | .call line func args keywords =>
    expressionFindings (.call line func args keywords) ::
      joinLevels (expressionLevels func)
        (joinLevels (expressionsLevels args) (expressionsLevels keywords))
  | .display _ _ items => [] :: expressionsLevels items
  | .keyword line arg value =>
    expressionFindings (.keyword line arg value) :: expressionLevels value
  | .starred _ value => [] :: expressionLevels value
  | .subscript _ value index => [] :: joinLevels (expressionLevels value) (expressionLevels index)
  | .other _ parts => [] :: expressionsLevels parts

/-- The findings of expressions that stand side by side, by their depth. -/
def expressionsLevels : List Expr → List (List Finding)
  | [] => []
  | e :: rest => joinLevels (expressionLevels e) (expressionsLevels rest)

end

mutual

/-- The findings of a statement and of everything in it, by their depth. -/
def statementLevels : Stmt → List (List Finding)
  | .classDef _ _ bases keywords body decorators =>
    [] :: joinAllLevels [expressionsLevels bases, expressionsLevels keywords,
      statementsLevels body, expressionsLevels decorators]
  | .functionDef _ _ parameters body decorators returns =>
    [] :: joinAllLevels [expressionLevels parameters, statementsLevels body,
      expressionsLevels decorators, expressionsLevels returns]
  | .assign _ targets value => [] :: joinLevels (expressionsLevels targets) (expressionLevels value)
  | .annotated _ target annotation value? =>
    [] :: joinAllLevels [expressionLevels target, expressionLevels annotation,
      match value? with
      | some value => expressionLevels value
      | none => []]
  | .augmented _ target value => [] :: joinLevels (expressionLevels target) (expressionLevels value)
  | .expression _ value => [] :: expressionLevels value
  | .imports line names => [importFindings (.imports line names)]
  | .importFrom line module? names => [importFindings (.importFrom line module? names)]
  | .compound _ head blocks => [] :: joinLevels (expressionsLevels head) (blocksLevels blocks)
  | .simple _ parts => [] :: expressionsLevels parts

/-- The findings of statements that stand side by side, by their depth. -/
def statementsLevels : List Stmt → List (List Finding)
  | [] => []
  | s :: rest => joinLevels (statementLevels s) (statementsLevels rest)

/-- The findings of blocks that stand side by side, by their depth. -/
def blocksLevels : List Block → List (List Finding)
  | [] => []
  | .body statements :: rest => joinLevels (statementsLevels statements) (blocksLevels rest)
  | .clause head statements :: rest =>
    joinLevels ([] :: joinLevels (expressionsLevels head) (statementsLevels statements))
      (blocksLevels rest)

end

/-- The findings of the whole module, whatever stands higher in its tree first. -/
def moduleFindings (m : Module) : List Finding := (statementsLevels m).flatten

def scan (m : Module) : Result :=
  let marked := bodyTags m
  let found := testsOfBody marked.1 "" m
  ⟨found.tests, moduleFindings m ++ marked.2 ++ found.findings⟩

end TaggedSuite.Scan
