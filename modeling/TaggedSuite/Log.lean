/-!
# Log lines
-/
namespace TaggedSuite

inductive LogLevel where
  | debug
  | info
  | warning
  | error
  deriving DecidableEq, Repr

def LogLevel.word : LogLevel → String
  | debug => "DEBUG"
  | info => "INFO"
  | warning => "WARNING"
  | error => "ERROR"

structure LogLine where
  level : LogLevel
  text : String
  deriving DecidableEq, Repr

namespace LogLine

/-- A line for whoever looks for the details. -/
def debug (text : String) : LogLine := ⟨.debug, text⟩

/-- A line about the normal course. -/
def info (text : String) : LogLine := ⟨.info, text⟩

/-- A line about something that may be wrong. -/
def warning (text : String) : LogLine := ⟨.warning, text⟩

/-- A line about a failure. -/
def error (text : String) : LogLine := ⟨.error, text⟩

/-- Whether the line is more than a detail. -/
def isNotable (l : LogLine) : Bool := l.level != .debug

end LogLine

end TaggedSuite
