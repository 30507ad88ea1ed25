import TaggedSuite.Files.Path
import TaggedSuite.Text.Utf8

/-!
# Files on disk

A disk holds files and directories, each at the list of names that leads to it from the root. A file
whose bytes are no text can be found but not read. Paths are followed from the working directory.
-/
namespace TaggedSuite

/-- The names that lead from the root to a file or directory. -/
abbrev Location := List String

/-- The text of a file, or the fault in its bytes. -/
abbrev FileText := Except Text.DecodingFault String

/-- The files, and the directory that paths are followed from. -/
structure Disk where
  files : List (Location × FileText)
  /-- Directories that need not hold a file. -/
  directories : List Location
  working : Location
  deriving Repr, Inhabited

namespace Disk

def hasFile (d : Disk) (l : Location) : Bool := (d.files.lookup l).isSome

/-- Whether the first location leads to something below which the second one lies. -/
def isAbove (l m : Location) : Bool := l.isPrefixOf m && l.length < m.length

/-- Whether there is a directory at the location. Whatever holds a file or directory is one. -/
def hasDirectory (d : Disk) (l : Location) : Bool :=
  l.isEmpty || l.isPrefixOf d.working || d.directories.any (fun m => l.isPrefixOf m) ||
    d.files.any fun f => isAbove l f.1

/-- Where a name leads from a location. -/
def step (l : Location) (n : String) : Location := if n = ".." then l.dropLast else l ++ [n]

/-- Follows names from a directory. Only directories can be passed through. -/
def follow (d : Disk) : Location → List String → Option Location
  | l, [] => some l
  | l, n :: rest => if d.hasDirectory l then follow d (step l n) rest else none

/-- Where a path begins. -/
def origin (d : Disk) (p : Path) : Location := if p.isAbsolute then [] else d.working

/-- The location that a path leads to, if it can be followed. -/
def locate (d : Disk) (p : Path) : Option Location := d.follow (d.origin p) p.parts

def isFile (d : Disk) (p : Path) : Bool := (d.locate p).any d.hasFile

def isDirectory (d : Disk) (p : Path) : Bool := (d.locate p).any d.hasDirectory

/-- The name of the next step from the first location towards the second one. -/
def stepTowards (l m : Location) : Option String := if isAbove l m then m[l.length]? else none

/-- The names in the directory that a path leads to, each once and in ascending order. -/
def names (d : Disk) (p : Path) : List String :=
  match d.locate p with
  | none => []
  | some l =>
    let all := (d.files.map (·.1) ++ d.directories).filterMap (stepTowards l)
    (all.eraseDups).mergeSort fun a b => decide (a ≤ b)

def unifyLineEnds : List Char → List Char
  | [] => []
  | '\r' :: '\n' :: rest => '\n' :: unifyLineEnds rest
  | '\r' :: rest => '\n' :: unifyLineEnds rest
  | c :: rest => c :: unifyLineEnds rest

/-- What the file holds that a path leads to, its text with unified line ends. -/
def fileText? (d : Disk) (p : Path) : Option FileText := do
  let text ← d.files.lookup (← d.locate p)
  return text.map fun s => String.ofList (unifyLineEnds s.toList)

/-- The text of the file that a path leads to, with unified line ends. -/
def read (d : Disk) (p : Path) : Option String := (d.fileText? p).bind Except.toOption

/-- Takes the steps upwards out of a location. -/
def normalize (l : Location) : Location := l.foldl step []

/-- The location that a path stands for, whether or not there is something. -/
def resolve (d : Disk) (p : Path) : Location := p.parts.foldl step (d.origin p)

def write (d : Disk) (l : Location) (text : FileText) : Disk :=
  { d with files := (d.files.filter fun f => f.1 != l) ++ [(l, text)] }

/-- Takes away what is at a location and below it; the directory that held it stays. -/
def delete (d : Disk) (l : Location) : Disk :=
  { d with
    files := d.files.filter fun f => !l.isPrefixOf f.1
    directories := l.dropLast :: d.directories.filter fun m => !l.isPrefixOf m }

end Disk

end TaggedSuite
