/-!
# Patterns of file names

A pattern stands for all file names that it fits: a star for any characters, a question mark for one
character, and characters between brackets for one of them, or for one other than them after an
exclamation mark. A bracket that is not closed stands for itself.
-/
namespace TaggedSuite

/-- A class of characters. Ranges go from the last character of one chunk to the first of the next.
-/
structure CharClass where
  isNegated : Bool
  chunks : List (List Char)
  deriving DecidableEq, Repr

namespace CharClass

/-- Whether the character lies in the range from the end of one chunk to the beginning of the next.
-/
def joins (a b : List Char) (c : Char) : Bool :=
  match a.getLast?, b.head? with
  | some lo, some hi => decide (lo ≤ c ∧ c ≤ hi)
  | _, _ => false

/-- Whether a character is in one of the chunks or between two of them. -/
def holds (c : Char) : List (List Char) → Bool
  | [] => false
  | [a] => a.contains c
  | a :: b :: rest => a.contains c || joins a b c || holds c (b :: rest)

def mem (k : CharClass) (c : Char) : Bool := holds c k.chunks != k.isNegated

/-- Cuts characters at the hyphens that make ranges. The number says how many characters go before
the next hyphen that can. The characters of the current chunk are given last one first. -/
def cut : Nat → List Char → List Char → List (List Char)
  | _, chunk, [] => [chunk.reverse]
  | 0, chunk, '-' :: c :: rest => chunk.reverse :: cut 1 [c] rest
  | n, chunk, c :: rest => cut (n - 1) (c :: chunk) rest

/-- Joins chunks whose range would be empty; its ends are dropped. -/
def dropEmptyRanges : List (List Char) → List (List Char)
  | [] => []
  | a :: rest =>
    match dropEmptyRanges rest with
    | b :: more =>
      match a.getLast?, b.head? with
      | some lo, some hi => if hi < lo then (a.dropLast ++ b.tail) :: more else a :: b :: more
      | _, _ => a :: b :: more
    | [] => [a]

/-- The class that the characters between brackets write. -/
def ofChars (cs : List Char) : CharClass :=
  match cs with
  | '!' :: rest => ⟨true, dropEmptyRanges (cut 1 [] rest)⟩
  | cs => ⟨false, dropEmptyRanges (cut 1 [] cs)⟩

end CharClass

inductive PatternPiece where
  | char (c : Char)
  | any
  | star
  | oneOf (k : CharClass)
  deriving DecidableEq, Repr

namespace FilePattern

/-- What stands before a closing bracket, and what follows it. -/
def untilBracket (cs : List Char) : Option (List Char × List Char) :=
  match cs.dropWhile (· != ']') with
  | [] => none
  | _ :: rest => some (cs.takeWhile (· != ']'), rest)

/-- What stands between brackets behind the opening one, and what follows. A closing bracket that
comes first, an exclamation mark aside, stands for itself. -/
def bracketed (cs : List Char) : Option (List Char × List Char) :=
  let first := match cs with
    | '!' :: ']' :: _ => ['!', ']']
    | '!' :: _ => ['!']
    | ']' :: _ => [']']
    | _ => []
  (untilBracket (cs.drop first.length)).map fun p => (first ++ p.1, p.2)

/-- The pieces of a pattern; the number bounds them. -/
def piecesUpTo : Nat → List Char → List PatternPiece
  | 0, _ => []
  | _ + 1, [] => []
  | n + 1, '*' :: rest => .star :: piecesUpTo n rest
  | n + 1, '?' :: rest => .any :: piecesUpTo n rest
  | n + 1, '[' :: rest =>
    match bracketed rest with
    | some (cs, rest) => .oneOf (.ofChars cs) :: piecesUpTo n rest
    | none => .char '[' :: piecesUpTo n rest
  | n + 1, c :: rest => .char c :: piecesUpTo n rest

def pieces (pattern : List Char) : List PatternPiece := piecesUpTo pattern.length pattern

/-- What is left of characters after each number of them, all of them first. -/
def suffixes : List Char → List (List Char)
  | [] => [[]]
  | c :: rest => (c :: rest) :: suffixes rest

/-- Whether the pieces stand for the characters. -/
def fitsPieces : List PatternPiece → List Char → Bool
  | [], cs => cs.isEmpty
  | .star :: ps, cs => (suffixes cs).any (fitsPieces ps)
  | _ :: _, [] => false
  | .char a :: ps, c :: cs => a == c && fitsPieces ps cs
  | .any :: ps, _ :: cs => fitsPieces ps cs
  | .oneOf k :: ps, c :: cs => k.mem c && fitsPieces ps cs

def fits (pattern name : String) : Bool := fitsPieces (pieces pattern.toList) name.toList

end FilePattern

end TaggedSuite
