import TaggedSuite.CommandLine.Runner
import TaggedSuite.Config.Loader

/-!
# The program

Before the test runner starts, the configuration and the filter of the run are looked at once, so
that a mistake in either ends the program early.
-/
namespace TaggedSuite

/-- What keeps a run from starting. -/
inductive SetupError where
  | config (e : ConfigError)
  | selection (e : SelectionError)

namespace SetupError

def message : SetupError → String
  | config e => e.message
  | selection e => e.message

/-- Whether the error is one of the configuration or of the wording of the filter. Any other one is
a fault of the program. -/
def isReported : SetupError → Bool
  | config e => e.isReported
  | selection (.malformed ..) => true
  | selection _ => false

end SetupError

/-- What came of preparing a run: what it wrote to the log, and a value. -/
structure Preparation (α : Type) where
  log : List LogLine
  result : Except SetupError α

namespace RunCommand

/-- A value that the command names, or else the setting of the environment section with the key. -/
def valueOr (config : RunConfig) (key : String) (default : Value) (named? : Option Value) :
    Except SelectionError Value :=
  match named? with
  | some v => .ok v
  | none => SelectionChoice.setting config key default

/-- The selection that the program makes for a run before the test runner starts. -/
def selection (c : RunCommand) (config : RunConfig) : Except SelectionError RunSelection := do
  let tags ← valueOr config "grepTags" (.str "") (c.choice.tags?.map .str)
  let titlePattern ← valueOr config "grep" (.str "") (c.choice.title?.map .str)
  let filterSpecs ← valueOr config "grepFilterSpecs" (.bool false)
    (c.choice.filterSpecs?.map .bool)
  let omitFiltered ← valueOr config "grepOmitFiltered" (.bool false)
    (c.choice.omitFiltered?.map .bool)
  RunSelection.ofSettings tags titlePattern ⟨filterSpecs.truthy, omitFiltered.truthy⟩

end RunCommand

namespace Program

/-- The configuration of an environment with the selection that is made for it, or why there is
none. -/
def prepare (l : Loader) (host : Host) (environment : String)
    (select : RunConfig → Except SelectionError RunSelection) :
    Preparation (RunConfig × RunSelection) :=
  let found := l.resolve host environment
  let log := l.newLog ++ found.log
  match found.result with
  | .error e => ⟨log, .error (.config e)⟩
  | .ok c =>
    match select c with
    | .error e => ⟨log, .error (.selection e)⟩
    | .ok s => ⟨log ++ [.debug s.readyText], .ok (c, s)⟩

def loader (s : CommandSettings) : Loader :=
  .new (.ofText s.configDirectory) none (some (.ofText s.variablesFile)) none

/-- Looks at the configuration and the filter of a run before it starts. -/
def preflight (host : Host) (c : RunCommand) : Preparation RunSelection :=
  let found := prepare (loader c.settings) host c.environment c.selection
  match found.result with
  | .error e => ⟨found.log, .error e⟩
  | .ok (config, s) =>
    ⟨found.log ++ [.info s!"[Runner] Environment: {config.text}",
      .info s!"[Runner] Filter: {s.describe}"], .ok s⟩

inductive Outcome where
  | exited (e : EarlyExit)
  | returned (code : Int)
  /-- An error that nothing reports. -/
  | escaped (e : SetupError)

structure Report where
  outcome : Outcome
  output : String
  /-- The arguments of each start of the test runner. -/
  starts : List (List String)
  log : List LogLine

/-- The exit code of a run that does not start because of a mistake. -/
def setupErrorCode : Int := 2

/-- Runs the tests. The test runner gives an exit code for its arguments. -/
def runTests (host : Host) (runner : List String → Int) (c : RunCommand)
    (extra : List String) : Report :=
  let found := preflight host c
  match found.result with
  | .error e =>
    if e.isReported then
      ⟨.returned setupErrorCode, "", [], found.log ++ [.error s!"[Runner] {e.message}"]⟩
    else ⟨.escaped e, "", [], found.log⟩
  | .ok _ =>
    let arguments := c.runnerArguments host.disk extra
    let code := runner arguments
    ⟨.returned code, "", [arguments], found.log ++
      [.info s!"[Runner] Pytest args: {Text.quotedList arguments}",
      .info s!"[Runner] Finished with exit code: {code}"]⟩

def listEnvironments (host : Host) (s : CommandSettings) : Report :=
  let l := loader s
  match l.available host.disk with
  | [] => ⟨.returned 1, "", [], l.newLog ++
      [.warning s!"[Runner] No environments found in {l.environments.text}"]⟩
  | names => ⟨.returned 0, String.join (names.map (· ++ "\n")), [], l.newLog⟩

/-- The lines of a log that are shown. Details are shown only to those who ask for them. -/
def shownLog (s : CommandSettings) (log : List LogLine) : List LogLine :=
  log.filter fun line => s.isVerbose || line.isNotable

def run (host : Host) (runner : List String → Int) (arguments : List String) : Report :=
  let (own, extra) := Command.splitArguments arguments
  match Command.read own with
  | .error e => ⟨.exited e, e.output, [], []⟩
  | .ok c =>
    let report := match c with
      | .run c => runTests host runner c extra
      | .environments s => listEnvironments host s
    { report with log := shownLog c.settings report.log }

end Program

end TaggedSuite
