import TaggedSuite.CommandLine.Arguments
import TaggedSuite.Selection.Choice

/-!
# Commands

The program has two commands: one runs the tests of an environment, the other lists the
environments. What follows two hyphens is not read but passed on to the test runner.
-/
namespace TaggedSuite

structure CommandSettings where
  configDirectory : String
  variablesFile : String
  isVerbose : Bool
  deriving DecidableEq, Repr, Inhabited

/-- What is taken unless something else is said. -/
def CommandSettings.default : CommandSettings := ⟨"config", ".env", false⟩

structure RunCommand where
  settings : CommandSettings
  environment : String
  choice : SelectionChoice
  paths : List String
  deriving DecidableEq, Repr, Inhabited

/-- The run that is asked for by the name of the command alone. -/
def RunCommand.default : RunCommand := ⟨.default, "local", .undecided, []⟩

/-- A command with what it was told. -/
inductive Command where
  | run (c : RunCommand)
  | environments (s : CommandSettings)
  deriving DecidableEq, Repr

/-- Why the program ends without running a command. -/
inductive EarlyExit where
  | help
  | version
  | usage
  deriving DecidableEq, Repr

namespace EarlyExit

def code : EarlyExit → Int
  | usage => 2
  | _ => 0

/-- What is written to the standard output. -/
def output : EarlyExit → String
  | version => "suitekit 0.1.0\n"
  | _ => ""

end EarlyExit

namespace Command

/-- The options of the program itself. -/
inductive MainKey where
  | help
  | version
  deriving DecidableEq, Repr

inductive Key where
  | help
  | configDirectory
  | variablesFile
  | verbose
  | environment
  | tags
  | title
  | filterSpecs (on : Bool)
  | omitFiltered (on : Bool)
  deriving DecidableEq, Repr

def mainTable : ArgumentTable MainKey where
  options := [⟨["-h", "--help"], false, .help⟩, ⟨["--version"], false, .version⟩]
  operands := .command

def commonOptions : List (CommandOption Key) :=
  [⟨["-h", "--help"], false, .help⟩, ⟨["--config-dir"], true, .configDirectory⟩,
    ⟨["--env-file"], true, .variablesFile⟩, ⟨["--verbose", "-v"], false, .verbose⟩]

/-- The arguments of the command that lists the environments. -/
def environmentsTable : ArgumentTable Key := ⟨commonOptions, .none⟩

/-- The arguments of the command that runs the tests. -/
def runTable : ArgumentTable Key where
  options := commonOptions ++
    [⟨["--env"], true, .environment⟩, ⟨["--grep-tags"], true, .tags⟩, ⟨["--grep"], true, .title⟩,
      ⟨["--filter-specs"], false, .filterSpecs true⟩,
      ⟨["--no-filter-specs"], false, .filterSpecs false⟩,
      ⟨["--omit-filtered"], false, .omitFiltered true⟩,
      ⟨["--no-omit-filtered"], false, .omitFiltered false⟩]
  operands := .anyNumber

/-- Settings after an effect of an argument. -/
def applySettings (s : CommandSettings) : ArgumentEffect Key → CommandSettings
  | .value .configDirectory v => { s with configDirectory := v }
  | .value .variablesFile v => { s with variablesFile := v }
  | .flag .verbose => { s with isVerbose := true }
  | _ => s

/-- A choice after an effect of an argument. -/
def applyChoice (c : SelectionChoice) : ArgumentEffect Key → SelectionChoice
  | .value .tags v => { c with tags? := some v }
  | .value .title v => { c with title? := some v }
  | .flag (.filterSpecs b) => { c with filterSpecs? := some b }
  | .flag (.omitFiltered b) => { c with omitFiltered? := some b }
  | _ => c

/-- A run after an effect of an argument. -/
def applyRun (c : RunCommand) (e : ArgumentEffect Key) : RunCommand :=
  let c := { c with settings := applySettings c.settings e, choice := applyChoice c.choice e }
  match e with
  | .value .environment v => { c with environment := v }
  | .operands paths => { c with paths := paths }
  | _ => c

def asksForHelp : ArgumentEffect Key → Bool
  | .flag .help => true
  | _ => false

/-- The effects of a reading, unless something else is asked for or there is a mistake. Arguments
that were left over before count as a mistake, too. -/
def effectsOf (extras : List String) (r : ArgumentReading Key) :
    Except EarlyExit (List (ArgumentEffect Key)) :=
  if r.effects.any asksForHelp then .error .help
  else if r.isBroken || !(extras ++ r.extras).isEmpty then .error .usage
  else .ok r.effects

/-- Reads a command by its name, and its arguments. -/
def ofWords (extras : List String) : List String → Except EarlyExit Command
  | "run" :: arguments => do
    let effects ← effectsOf extras (runTable.read arguments)
    return .run (effects.foldl applyRun .default)
  | "envs" :: arguments => do
    let effects ← effectsOf extras (environmentsTable.read arguments)
    return .environments (effects.foldl applySettings .default)
  | _ => .error .usage

/-- The command that the effects of the first arguments lead to. -/
def ofEffects (r : ArgumentReading MainKey) :
    List (ArgumentEffect MainKey) → Except EarlyExit Command
  | [] => .error .usage
  | .flag .help :: _ => .error .help
  | .flag .version :: _ => .error .version
  | .operands words :: _ => ofWords r.extras words
  | .value _ _ :: rest => ofEffects r rest

def read (arguments : List String) : Except EarlyExit Command :=
  let r := mainTable.read arguments
  ofEffects r r.effects

/-- What both commands were told. -/
def settings : Command → CommandSettings
  | run c => c.settings
  | environments s => s

/-- The arguments of the program, and those of the test runner behind the first pair of hyphens. -/
def splitArguments (arguments : List String) : List String × List String :=
  (arguments.takeWhile (· != "--"), (arguments.dropWhile (· != "--")).drop 1)

end Command

end TaggedSuite
