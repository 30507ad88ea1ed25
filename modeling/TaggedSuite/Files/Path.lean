/-!
# Paths

A path is a list of names that is followed from the root of all files or from a working directory.
The name of two dots leads to the directory above.
-/
namespace TaggedSuite

/-- The parts of a text between a separator. -/
def splitChars (separator : Char) : List Char → List (List Char)
  | [] => [[]]
  | c :: rest =>
    if c = separator then [] :: splitChars separator rest
    else match splitChars separator rest with
      | first :: more => (c :: first) :: more
      | [] => [[c]]

namespace FileName

/-- Splits a file name before its last dot. A dot at the beginning or at the end does not count. -/
def split (name : String) : String × String :=
  let reversed := name.toList.reverse
  let ending := reversed.takeWhile (· != '.')
  match reversed.dropWhile (· != '.') with
  | '.' :: stem =>
    if ending.isEmpty || stem.isEmpty then (name, "")
    else (String.ofList stem.reverse, String.ofList ('.' :: ending.reverse))
  | _ => (name, "")

def stem (name : String) : String := (split name).1

/-- The last dot of a file name with what follows it. -/
def suffix (name : String) : String := (split name).2

end FileName

/-- Where a path begins. Two slashes in front lead to the root like one, but stay two. -/
inductive PathStart where
  | working
  | root
  | doubleRoot
  deriving DecidableEq, Repr, Inhabited

/-- A path to a file or directory. No part is empty or a single dot. -/
structure Path where
  start : PathStart
  parts : List String
  deriving DecidableEq, Repr, Inhabited

namespace PathStart

/-- Where the path begins that the characters write. -/
def ofChars : List Char → PathStart
  | '/' :: '/' :: '/' :: _ => root
  | '/' :: '/' :: _ => doubleRoot
  | '/' :: _ => root
  | _ => working

def text : PathStart → String
  | working => ""
  | root => "/"
  | doubleRoot => "//"

end PathStart

namespace Path

/-- The path that a text writes. Repeated slashes and single dots make no difference after the
beginning. -/
def ofText (s : String) : Path :=
  let names := (splitChars '/' s.toList).map String.ofList
  ⟨.ofChars s.toList, names.filter fun n => n != "" && n != "."⟩

/-- Whether the path does not depend on the working directory. -/
def isAbsolute (p : Path) : Bool := p.start != .working

def text (p : Path) : String :=
  if p = ⟨.working, []⟩ then "." else p.start.text ++ "/".intercalate p.parts

/-- The second path, followed from the first one. -/
def append (p q : Path) : Path :=
  if q.isAbsolute then q else ⟨p.start, p.parts ++ q.parts⟩

def below (p : Path) (name : String) : Path := ⟨p.start, p.parts ++ [name]⟩

def name (p : Path) : String := p.parts.getLast?.getD ""

/-- The last name without its suffix. -/
def stem (p : Path) : String := FileName.stem p.name

def suffix (p : Path) : String := FileName.suffix p.name

@[simp] theorem name_below (p : Path) (n : String) : (p.below n).name = n := by simp [name, below]

end Path

end TaggedSuite
