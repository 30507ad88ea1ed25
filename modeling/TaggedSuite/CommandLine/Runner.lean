import TaggedSuite.CommandLine.Command
import TaggedSuite.Files.Disk

/-!
# Options of the test runner

A run is handed over to the test runner as a list of arguments, which the set-up of the run inside
the runner reads again. Values that may begin with a special character are joined to their option by
an equals sign.
-/
namespace TaggedSuite

structure RunnerOptions where
  environment? : Option String
  configDirectory? : Option String
  variablesFile? : Option String
  choice : SelectionChoice
  deriving DecidableEq, Repr, Inhabited

namespace RunnerOptions

def none : RunnerOptions := ⟨.none, .none, .none, .undecided⟩

def valueNames : List String :=
  ["--suite-env", "--suite-config-dir", "--suite-env-file", "--grep-tags", "--grep"]

def setValue (o : RunnerOptions) (name value : String) : RunnerOptions :=
  match name with
  | "--suite-env" => { o with environment? := some value }
  | "--suite-config-dir" => { o with configDirectory? := some value }
  | "--suite-env-file" => { o with variablesFile? := some value }
  | "--grep-tags" => { o with choice.tags? := some value }
  | "--grep" => { o with choice.title? := some value }
  | _ => o

def setSwitch (o : RunnerOptions) (name : String) : RunnerOptions :=
  match name with
  | "--grep-filter-specs" => { o with choice.filterSpecs? := some true }
  | "--no-grep-filter-specs" => { o with choice.filterSpecs? := some false }
  | "--grep-omit-filtered" => { o with choice.omitFiltered? := some true }
  | "--no-grep-omit-filtered" => { o with choice.omitFiltered? := some false }
  | _ => o

/-- An argument that holds a name and a value, as both of them. -/
def splitJoined? (argument : String) : Option (String × String) :=
  match argument.toList.dropWhile (· != '=') with
  | _ :: value => some (String.ofList (argument.toList.takeWhile (· != '=')), String.ofList value)
  | [] => .none

/-- The options with what a single argument sets. -/
def setArgument (o : RunnerOptions) (argument : String) : RunnerOptions :=
  match splitJoined? argument with
  | some (name, value) => o.setValue name value
  | .none => o.setSwitch argument

/-- The options after arguments. Arguments that are no options of the run are passed over. -/
def read (o : RunnerOptions) : List String → RunnerOptions
  | [] => o
  | [a] => o.setArgument a
  | a :: b :: rest =>
    if valueNames.contains a then read (o.setValue a b) rest
    else read (o.setArgument a) (b :: rest)

def ofArguments (arguments : List String) : RunnerOptions := read .none arguments

end RunnerOptions

namespace RunCommand

/-- An option with its value. -/
def joined (name : String) (value? : Option String) : List String :=
  (value?.map fun v => name ++ "=" ++ v).toList

/-- A switch, if it is turned on or off. -/
def switch (name : String) (on? : Option Bool) : List String :=
  (on?.map fun on => if on then "--" ++ name else "--no-" ++ name).toList

/-- The text of the location that a path stands for. -/
def absolute (disk : Disk) (path : String) : String :=
  Path.text ⟨.root, disk.resolve (.ofText path)⟩

/-- The arguments that hand a run over to the test runner. -/
def runnerArguments (c : RunCommand) (disk : Disk) (extra : List String) : List String :=
  ["-p", "suitekit.plugin", "--suite-env", c.environment,
    "--suite-config-dir", absolute disk c.settings.configDirectory,
    "--suite-env-file", absolute disk c.settings.variablesFile] ++
  joined "--grep-tags" c.choice.tags? ++ joined "--grep" c.choice.title? ++
  switch "grep-filter-specs" c.choice.filterSpecs? ++
    switch "grep-omit-filtered" c.choice.omitFiltered? ++
  (if c.settings.isVerbose then ["-v"] else []) ++ extra ++ c.paths

end RunCommand

end TaggedSuite
