import TaggedSuite.Config.Expand
import TaggedSuite.Files.Disk
import TaggedSuite.Log
import TaggedSuite.Text.Blank

/-!
# Files of variables

A file of variables gives one variable a line. A value stands plainly or between quotes, and may
refer to variables of the process and to those further up in the file. A line that cannot be read is
passed over.
-/
namespace TaggedSuite.VariablesFile

/-- A line of a file: the name of a variable, with its value if it has one. A line without a name
says nothing. -/
structure Binding where
  name? : Option String
  value? : Option String
  deriving DecidableEq, Repr

def isLineEnd (c : Char) : Bool := c == '\n' || c == '\r'

/-- Whether the character is whitespace inside of a line. -/
def isGap (c : Char) : Bool := Text.isBlank c && !isLineEnd c

/-- Splits off the characters in front that satisfy the condition. -/
def span (p : Char → Bool) (cs : List Char) : List Char × List Char :=
  (cs.takeWhile p, cs.dropWhile p)

def skipLine (cs : List Char) : List Char :=
  match cs.dropWhile (!isLineEnd ·) with
  | '\r' :: rest => rest
  | '\n' :: rest => rest
  | rest => rest

/-- Skips the word that marks a variable for other programs. -/
def skipExport (cs : List Char) : List Char :=
  match cs with
  | 'e' :: 'x' :: 'p' :: 'o' :: 'r' :: 't' :: c :: rest =>
    if isGap c then rest.dropWhile isGap else cs
  | _ => cs

/-- Splits a quoted value from what follows it. A quote behind a backslash does not end it, unless
no other one does. -/
def quotedSpan (quote : Char) : List Char → Option (List Char × List Char)
  | [] => none
  | '\\' :: c :: rest =>
    if c = '\\' then (quotedSpan quote rest).map fun r => ('\\' :: c :: r.1, r.2)
    else if c = quote then
      match quotedSpan quote rest with
      | some (body, after) => some ('\\' :: c :: body, after)
      | none => some (['\\'], rest)
    else (quotedSpan quote (c :: rest)).map fun r => ('\\' :: r.1, r.2)
  | c :: rest =>
    if c = quote then some ([], rest) else (quotedSpan quote rest).map fun r => (c :: r.1, r.2)

/-- What a backslash and the character stand for. -/
def escape? (quote : Char) (c : Char) : Option Char :=
  if c = '\\' ∨ c = '\'' then some c
  else if quote = '\'' then none
  else match c with
    | '"' => some '"'
    | 'a' => some '\x07'
    | 'b' => some '\x08'
    | 'f' => some '\x0c'
    | 'n' => some '\n'
    | 'r' => some '\r'
    | 't' => some '\t'
    | 'v' => some '\x0b'
    | _ => none

/-- Replaces the escapes of a quoted value. -/
def unescape (quote : Char) : List Char → List Char
  | [] => []
  | '\\' :: c :: rest =>
    match escape? quote c with
    | some e => e :: unescape quote rest
    | none => '\\' :: unescape quote (c :: rest)
  | c :: rest => c :: unescape quote rest

/-- The characters of a plain value before a comment: a hash behind whitespace begins one. -/
def beforeComment : List Char → List Char
  | [] => []
  | c :: rest =>
    if Text.isBlank c && (rest.dropWhile Text.isBlank).head? == some '#' then []
    else c :: beforeComment rest

/-- Reads a name; a line that begins with a hash has none. -/
def readName (cs : List Char) : Option (Option String × List Char) :=
  match cs with
  | '#' :: _ => some (none, cs)
  | '\'' :: rest =>
    match span (· != '\'') rest with
    | (c :: name, _ :: after) => some (some (String.ofList (c :: name)), after)
    | _ => none
  | _ =>
    let (name, after) := span (fun c => c != '=' && c != '#' && !Text.isBlank c) cs
    if name.isEmpty then none else some (some (String.ofList name), after)

def readValue (cs : List Char) : Option (String × List Char) :=
  let rest := cs.dropWhile isGap
  let plain : Option (String × List Char) :=
    let (line, after) := span (!isLineEnd ·) rest
    some (String.ofList (Text.trimRight (beforeComment line)), after)
  match rest with
  | [] => some ("", [])
  | '\'' :: more => (quotedSpan '\'' more).map fun r => (String.ofList (unescape '\'' r.1), r.2)
  | '"' :: more => (quotedSpan '"' more).map fun r => (String.ofList (unescape '"' r.1), r.2)
  | '#' :: _ => if rest.length < cs.length then some ("", rest) else plain
  | c :: _ => if isLineEnd c then some ("", rest) else plain

/-- Skips a comment and the end of a line; nothing else may come before that end. -/
def endLine (cs : List Char) : Option (List Char) :=
  let cs := cs.dropWhile isGap
  let cs := if cs.head? == some '#' then cs.dropWhile (!isLineEnd ·) else cs
  match cs with
  | '\r' :: '\n' :: rest => some rest
  | '\n' :: rest | '\r' :: rest => some rest
  | [] => some []
  | _ => none

/-- A step over a line: what it says if it can be read, and what follows it. -/
abbrev Step := Option Binding × List Char

/-- Reads a line. A fault leaves off where it is noticed, and the rest of that line is passed over.
-/
def readLine (cs : List Char) : Step :=
  match readName (skipExport cs) with
  | none => (none, skipLine (skipExport cs))
  | some (name?, cs) =>
    match cs.dropWhile isGap with
    | '=' :: cs =>
      match readValue cs with
      | none => (none, skipLine cs)
      | some (value, cs) =>
        match endLine cs with
        | some cs => (some ⟨name?, some value⟩, cs)
        | none => (none, skipLine cs)
    | cs =>
      match endLine cs with
      | some cs => (some ⟨name?, none⟩, cs)
      | none => (none, skipLine cs)

/-- The bindings of a file in order; the number bounds its lines. -/
def readLines : Nat → List Char → List Binding
  | 0, _ => []
  | n + 1, cs =>
    match cs.dropWhile Text.isBlank with
    | [] => []
    | cs =>
      let (binding?, cs) := readLine cs
      binding?.toList ++ readLines n cs

/-- A piece of a value: a character, or a reference to a variable. -/
abbrev Piece := Expand.Piece

/-- Reads a reference behind its dollar sign and opening brace. Its name may hold everything but a
colon and a closing brace. -/
def reference? (cs : List Char) : Option (Expand.Reference × List Char) :=
  let (name, rest) := span (fun c => c != ':' && c != '\x7d') cs
  match rest with
  | '\x7d' :: rest => some (⟨String.ofList name, none⟩, rest)
  | ':' :: '-' :: rest =>
    match span (· != '\x7d') rest with
    | (default, _ :: rest) => some (⟨String.ofList name, some (String.ofList default)⟩, rest)
    | _ => none
  | _ => none

/-- The pieces of a value; the number bounds them. -/
def pieces : Nat → List Char → List Piece
  | 0, _ => []
  | _ + 1, [] => []
  | n + 1, '$' :: '\x7b' :: rest =>
    match reference? rest with
    | some (r, rest) => .reference r :: pieces n rest
    | none => .char '$' :: pieces n ('\x7b' :: rest)
  | n + 1, c :: rest => .char c :: pieces n rest

/-- The variables that a file has given so far; a name without a value hides a variable of the
process. -/
abbrev Bound := List (String × Option String)

/-- What a reference reads as: a variable of the file goes before one of the process. -/
def lookup (process : Variables) (bound : Bound) (r : Expand.Reference) : String :=
  match bound.lookup r.name with
  | some value? => value?.getD ""
  | none => ((process.lookup r.name).or r.default?).getD ""

/-- A value with its references replaced. -/
def interpolate (process : Variables) (bound : Bound) (value : String) : String :=
  String.join ((pieces value.length value.toList).map fun p =>
    match p with
    | .char c => c.toString
    | .reference r => lookup process bound r)

/-- The variables of bindings in order, last one first. -/
def bindAll (process : Variables) : Bound → List Binding → Bound
  | bound, [] => bound
  | bound, b :: rest =>
    match b.name? with
    | none => bindAll process bound rest
    | some name => bindAll process ((name, b.value?.map (interpolate process bound)) :: bound) rest

/-- The variables with a value in the text of a file. A byte order mark in front is no part of it.
-/
def assignments (process : Variables) (text : String) : Variables :=
  let cs := match text.toList with
    | '\uFEFF' :: cs => cs
    | cs => cs
  let bound := bindAll process [] (readLines (cs.length + 1) cs)
  let names := (bound.reverse.map (·.1)).eraseDups
  names.filterMap fun name => (bound.lookup name).join.map fun value => (name, value)

end TaggedSuite.VariablesFile

namespace TaggedSuite

/-- The variables that references are looked up in: those of a file, which the given ones or else
those of the process go before. The file has to be a text if there is one. -/
def Variables.gather (disk : Disk) (process : Variables) (file? : Option Path)
    (given : Option Variables) : Except Text.DecodingFault (Variables × List LogLine) :=
  let top := given.getD process
  match file? with
  | none => .ok (Variables.override [] top, [])
  | some path =>
    match disk.fileText? path with
    | none => .ok (Variables.override [] top, [.debug s!"No dotenv file at {path.text}"])
    | some text => do
      let vars := VariablesFile.assignments process (← text)
      return (vars.override top, [.debug s!"Loaded {vars.length} variable(s) from {path.text}"])

end TaggedSuite
