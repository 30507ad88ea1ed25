import TaggedSuite.Text.Quoted

/-!
# Why the tags of a module may differ from what the scan reads
-/
namespace TaggedSuite.Scan

/-- Something that can give a test tags which the scan cannot read. -/
inductive Reason where
  | syntaxError
  | unreadable
  | testingAlias (name : String)
  | markAlias (name : String)
  | marksKeyword
  | dynamicMarker (method : String)
  | inheritedMarks (className : String)
  | extendedMarks
  | marksMethod (method : String)
  | unresolvedMark
  | computedArgument
  | invalidTag
  deriving DecidableEq, Repr

/-- The wording of a reason. -/
def Reason.message : Reason → String
  | syntaxError => "syntax error"
  | unreadable => "cannot read"
  | testingAlias name => s!"pytest imported as {Text.quoted name}"
  | markAlias name => s!"mark imported as {Text.quoted name}"
  | marksKeyword => "marks= keyword"
  | dynamicMarker method => s!"dynamic {method}()"
  | inheritedMarks className => s!"class {className} inherits marks"
  | extendedMarks => "pytestmark extended with +="
  | marksMethod method => s!"pytestmark.{method}()"
  | unresolvedMark => "unresolved decorator or mark"
  | computedArgument => "non-literal tag argument"
  | invalidTag => "invalid tag literal"

/-- A reason, with the line where it was found if it belongs to one. -/
structure Finding where
  reason : Reason
  line? : Option Nat
  deriving DecidableEq, Repr

def Finding.message (f : Finding) : String :=
  match f.line? with
  | some line => s!"line {line}: {f.reason.message}"
  | none => f.reason.message

end TaggedSuite.Scan
