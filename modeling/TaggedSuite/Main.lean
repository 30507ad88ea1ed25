import TaggedSuite.CommandLine.Program

/-!
# The command line

The files that a command can ask for are read first; the rest is the program's. The test runner
takes its arguments from the standard output, one on a line.
-/
namespace TaggedSuite.Outside

/-- The names in a directory; none if there is no directory. -/
def namesIn (directory : String) : IO (List String) := do
  let here ← IO.currentDir
  try
    return (← (here / directory).readDir).toList.map (·.fileName)
  catch _ => return []

def isFile (path : String) : IO Bool := do
  let place := (← IO.currentDir) / path
  return (← place.pathExists) && !(← place.isDir)

def isDirectory (path : String) : IO Bool := do
  ((← IO.currentDir) / path).isDir

/-- The text of a file. There is none in a file that cannot be read. -/
def textOf (path : String) : IO FileText := do
  try
    return Text.decode (← IO.FS.readBinFile path).toList
  catch _ => return .ok ""

def processVariables : IO Variables := do
  let text := (← textOf "/proc/self/environ").toOption.getD ""
  let pairs := (splitChars '\x00' text.toList).map fun cs =>
    (String.ofList (cs.takeWhile (· != '=')), String.ofList ((cs.dropWhile (· != '=')).drop 1))
  return pairs.filter (·.1 != "")

/-- The paths of the files in a directory of settings that a command can ask for. -/
def settingsPaths (directory : Path) : IO (List Path) := do
  let environments := directory.below "environments"
  let overlays ← namesIn environments.text
  return Loader.baseNames.map directory.below ++ overlays.map environments.below

/-- The files that a command can ask for. -/
def disk (s : CommandSettings) : IO Disk := do
  let working := Disk.normalize (Path.ofText (← IO.currentDir).toString).parts
  let bare : Disk := ⟨[], [], working⟩
  let directory := Path.ofText s.configDirectory
  let inner := directory.append directory
  let outer ← settingsPaths directory
  let nested ← settingsPaths inner
  let found ← (.ofText s.variablesFile :: outer ++ nested).filterM fun p => isFile p.text
  let files ← found.mapM fun p => return (bare.resolve p, ← textOf p.text)
  let directories ← [directory, inner, directory.below "environments"].filterM fun p =>
    isDirectory p.text
  return ⟨files, directories.map bare.resolve, working⟩

/-- What a command finds. -/
def host (arguments : List String) : IO Host := do
  let s := match Command.read (Command.splitArguments arguments).1 with
    | .ok c => c.settings
    | .error _ => .default
  return ⟨← disk s, ← processVariables⟩

def exitCode : Program.Outcome → UInt32
  | .exited e => e.code.toNat.toUInt32
  | .returned code => code.toNat.toUInt32
  | .escaped _ => 1

end TaggedSuite.Outside

def main (arguments : List String) : IO UInt32 := do
  let host ← TaggedSuite.Outside.host arguments
  let report := TaggedSuite.Program.run host (fun _ => 0) arguments
  let err ← IO.getStderr
  for line in report.log do
    err.putStrLn (line.level.word ++ " " ++ line.text)
  IO.print report.output
  for start in report.starts do
    for argument in start do
      IO.println argument
  return TaggedSuite.Outside.exitCode report.outcome
