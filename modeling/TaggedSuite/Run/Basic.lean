import TaggedSuite.CommandLine.Program
import TaggedSuite.Session.Login

/-!
# Setting up a run

Inside the test runner the configuration is resolved and the filter is read once, before any test is
collected. Options go before variables of the process, and those before the settings of the runner.
-/
namespace TaggedSuite

structure RunnerSettings where
  /-- The directory that relative paths are followed from. -/
  root : Path
  environment : String
  configDirectory : String
  /-- The patterns of the names of test files. -/
  filePatterns : List String
  deriving Inhabited

structure TestRun where
  config : RunConfig
  selection : RunSelection
  sessions : Session.Sessions
  /-- The test files that are not loaded. -/
  ignored : List String

namespace TestRun

/-- The environment that is taken when nothing names one. -/
def defaultEnvironment : String := "local"

def environmentVariable : String := "SUITE_ENV"

/-- The file with variables that is taken when no other one is named. -/
def defaultVariablesFile : String := ".env"

/-- The first text that is there and not empty. -/
def firstGiven (texts : List (Option String)) (default : String) : String :=
  ((texts.filterMap id).find? (· != "")).getD default

def environmentName (host : Host) (settings : RunnerSettings) (o : RunnerOptions) : String :=
  firstGiven
    [o.environment?, host.processVariables.lookup environmentVariable, some settings.environment]
    defaultEnvironment

def loader (settings : RunnerSettings) (o : RunnerOptions) : Loader :=
  let directory := firstGiven [o.configDirectory?] settings.configDirectory
  let file := firstGiven [o.variablesFile?] defaultVariablesFile
  .new (settings.root.append (.ofText directory)) none
    (some (settings.root.append (.ofText file))) none

/-- Sets up a run. -/
def setUp (host : Host) (settings : RunnerSettings) (o : RunnerOptions) : Preparation TestRun :=
  let found :=
    Program.prepare (loader settings o) host (environmentName host settings o) o.choice.select
  match found.result with
  | .ok (config, selection) =>
    ⟨found.log ++ [.info s!"Run configured: {config.text} | filter: {selection.describe}"],
      .ok ⟨config, selection, .none, []⟩⟩
  | .error e =>
    let closing : List LogLine :=
      if e.isReported then [.error s!"Run aborted: {e.message}"] else []
    ⟨found.log ++ closing, .error e⟩

/-- Why the test runner stops before it collects any test. -/
inductive ConfigureError where
  /-- The runner is told what is wrong with how it was called. -/
  | usage (message : String)
  /-- An error that nothing reports. -/
  | escaped (e : SetupError)

/-- What came of configuring the test runner: what it wrote to the log, the run that is stored for
what follows, and whether it goes on. -/
structure Configuration where
  log : List LogLine
  stored? : Option TestRun
  result : Except ConfigureError Unit

/-- Configures the test runner. No run is set up when it only tells about itself. -/
def configure (host : Host) (settings : RunnerSettings) (o : RunnerOptions) (isIdle : Bool) :
    Configuration :=
  if isIdle then ⟨[], none, .ok ()⟩
  else
    let found := setUp host settings o
    match found.result with
    | .ok r => ⟨found.log, some r, .ok ()⟩
    | .error e => ⟨found.log, none, .error (if e.isReported then .usage e.message else .escaped e)⟩

/-- The marker that tests declare their tags with, as the test runner lists it. -/
def markerText : String :=
  "tags(*labels): Tags used by --grep-tags, e.g. tags('@smoke', '@api')"

/-- The lines in front of the test runner's report. -/
def header (r : TestRun) : List String :=
  let url := if r.config.baseUrl = "" then "-" else r.config.baseUrl
  [s!"suitekit: env={r.config.name} ({r.config.label}), baseUrl={url}",
    s!"suitekit filter: {r.selection.describe}"]

/-- The call for the session of the default actor. -/
def sessionCall : Session.Sessions.Call := .cached .default none

/-- The run after tests have asked for the session of the default actor, with what each one got. -/
def withSessions (r : TestRun) (replies : List Session.Reply) (n : Nat) :
    TestRun × List (Session.Outcome Session.HttpSession ⊕
      Option (Session.Cache.Result Session.HttpSession)) :=
  let answers := Session.Sessions.run r.config r.sessions replies (List.replicate n sessionCall)
  ({ r with sessions := (answers.getLast?.map (·.1)).getD r.sessions }, answers.map (·.2))

/-- The run after its end, when all sessions are released. -/
def close (r : TestRun) : TestRun := { r with sessions := (r.sessions.request .clear).1 }

end TestRun

end TaggedSuite
