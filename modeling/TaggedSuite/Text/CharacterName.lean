import TaggedSuite.Text.CharacterName.Aliases
import TaggedSuite.Text.CharacterName.Ancient
import TaggedSuite.Text.CharacterName.EastAsia
import TaggedSuite.Text.CharacterName.Notations
import TaggedSuite.Text.CharacterName.Pictures
import TaggedSuite.Text.CharacterName.Scripts
import TaggedSuite.Text.CharacterName.Symbols
import TaggedSuite.Text.CodeRange
import TaggedSuite.Text.Compatibility

/-!
# Names of characters

Tables list the names of most characters; ideographs and Korean syllables have names that follow
rules.

A table is a text of entries that end in semicolons. An entry with an equals sign gives the
hexadecimal code of the next character. The other entries name characters one after the other: a
digit says with how many words of the name before it a name begins, and the rest of its words
follow.
-/
namespace TaggedSuite.Text.CharacterName

/-- The value of a hexadecimal digit; letters are lower case. -/
def hexDigitValue? (c : Char) : Option Nat :=
  if c.isDigit then some (c.toNat - '0'.toNat)
  else if 'a' ≤ c ∧ c ≤ 'f' then some (c.toNat - 'a'.toNat + 10)
  else none

/-- The number that hexadecimal digits write. -/
def hexValue? (digits : List Char) : Option Nat :=
  digits.foldlM (fun n c => (hexDigitValue? c).map (16 * n + ·)) 0

/-- The code of the character whose name has the words, among entries of a table. `code` is the
code of the next character, and `last` holds the words of the last name. -/
def findEntry? (wanted : List String) (code : Nat) (last : List String) : List String → Option Nat
  | [] => none
  | entry :: rest =>
    match entry.toList with
    | [] => findEntry? wanted code last rest
    | '=' :: digits => findEntry? wanted ((hexValue? digits).getD code) [] rest
    | count :: name =>
      let words := last.take (count.toNat - '0'.toNat) ++ (String.ofList name).splitOn " "
      if words = wanted then some code else findEntry? wanted (code + 1) words rest

def tables : List (List String) :=
  [scriptNames, symbolNames, eastAsianNames, ancientNames, notationNames, pictureNames, aliasNames]

/-- The code of the character that a table gives the name. -/
def listed? (name : String) : Option Nat :=
  let words := name.splitOn " "
  tables.findSome? fun table => findEntry? words 0 [] (table.flatMap fun line => line.splitOn ";")

/-- The number that upper-case hexadecimal digits write. -/
def upperHexValue? (digits : List Char) : Option Nat :=
  if digits.any Char.isLower then none else hexValue? (digits.map Char.toLower)

def after? (start name : String) : Option (List Char) :=
  if start.toList.isPrefixOf name.toList then some (name.toList.drop start.length) else none

/-- Characters whose names end in their codes, by ranges. -/
def codedNames : List (String × List (Nat × Nat)) :=
  [("CJK COMPATIBILITY IDEOGRAPH-", [(0xF900, 0xFA6D), (0xFA70, 0xFAD9), (0x2F800, 0x2FA1D)]),
    ("KHITAN SMALL SCRIPT CHARACTER-", [(0x18B00, 0x18CD5)]),
    ("NUSHU CHARACTER-", [(0x1B170, 0x1B2FB)])]

/-- The code that the name ends in, if a character is named by it. -/
def coded? (name : String) : Option Nat :=
  codedNames.findSome? fun (start, ranges) => do
    let digits ← after? start name
    let code ← upperHexValue? digits
    if inRanges ranges code && digits.head? != some '0' then some code else none

/-- The ideographs that are named by their codes alone. -/
def ideographRanges : List (Nat × Nat) :=
  [(0x3400, 0x4DBF), (0x4E00, 0x9FFF), (0x20000, 0x2A6DF), (0x2A700, 0x2B738), (0x2B740, 0x2B81D),
    (0x2B820, 0x2CEA1), (0x2CEB0, 0x2EBE0), (0x30000, 0x3134A)]

/-- The code of an ideograph from the end of its name: four or five digits. -/
def ideograph? (digits : List Char) : Option Nat := do
  let code ← upperHexValue? digits
  if (digits.length = 4 ∨ digits.length = 5) ∧ inRanges ideographRanges code then some code
  else none

/-- The names of the consonants that Korean syllables begin with, in their order. -/
def leadingConsonants : List String :=
  ["G", "GG", "N", "D", "DD", "R", "M", "B", "BB", "S", "SS", "", "J", "JJ", "C", "K", "T", "P",
    "H"]

/-- The names of the vowels of Korean syllables in their order. -/
def syllableVowels : List String :=
  ["A", "AE", "YA", "YAE", "EO", "E", "YEO", "YE", "O", "WA", "WAE", "OE", "YO", "U", "WEO", "WE",
    "WI", "YU", "EU", "YI", "I"]

/-- The names of the consonants that Korean syllables end with, in their order. -/
def trailingConsonants : List String :=
  ["", "G", "GG", "GS", "N", "NJ", "NH", "D", "L", "LG", "LM", "LB", "LS", "LT", "LP", "LH", "M",
    "B", "BS", "S", "SS", "NG", "J", "C", "K", "T", "P", "H"]

/-- The place of the longest of the parts that the characters begin with, and what follows it. -/
def longestPart? (parts : List String) (cs : List Char) : Option (Nat × List Char) :=
  let starts := parts.zipIdx.filter fun (part, _) => part.toList.isPrefixOf cs
  let longest := starts.foldl
    (fun best p => if best.all fun b => b.1.length < p.1.length then some p else best) none
  longest.map fun (part, place) => (place, cs.drop part.length)

/-- The code of a Korean syllable from the end of its name, which spells it. -/
def syllable? (spelling : List Char) : Option Nat := do
  let (first, rest) ← longestPart? leadingConsonants spelling
  let (second, rest) ← longestPart? syllableVowels rest
  let (third, rest) ← longestPart? trailingConsonants rest
  if rest.isEmpty then some (syllableBase + (first * 21 + second) * 28 + third) else none

/-- The code of the character with the name. Case does not matter, except in names that follow a
rule. -/
def code? (name : String) : Option Nat :=
  match after? "HANGUL SYLLABLE " name, after? "CJK UNIFIED IDEOGRAPH-" name with
  | some spelling, _ => syllable? spelling
  | none, some digits => ideograph? digits
  | none, none =>
    let name := String.ofList (name.toList.map Char.toUpper)
    (coded? name).orElse fun _ => listed? name

def find? (name : String) : Option Char := (code? name).map Char.ofNat

end TaggedSuite.Text.CharacterName
