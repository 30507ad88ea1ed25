import TaggedSuite.Scan.Basic
import TaggedSuite.Source.Grammar.Statement

/-!
# Scanning the text of a module
-/
namespace TaggedSuite.Scan

/-- A scan that found no test because of the reason. -/
def Result.failed (reason : Reason) : Result := ⟨[], [⟨reason, none⟩]⟩

/-- Why a text cannot be scanned at all. -/
inductive ScanError where
  | nullCharacter
  deriving DecidableEq, Repr

/-- The wording of an error. -/
def ScanError.message : ScanError → String
  | nullCharacter => "source code string cannot contain null bytes"

/-- The scan of a module's text. A text that is no module has no tests, and is not exact; one with a
null character in it is refused. -/
def scanText (text : String) : Except ScanError Result :=
  if text.contains '\x00' then .error .nullCharacter
  else match Source.Module.read text with
    | some m => .ok (scan m)
    | none => .ok (.failed .syntaxError)

/-- The scan of a file's content, which may not be readable as text. -/
def scanContent (text? : Option String) : Except ScanError Result :=
  match text? with
  | some text => scanText text
  | none => .ok (.failed .unreadable)

end TaggedSuite.Scan
