import TaggedSuite.Text.Blank

/-!
# Choosing tests by title

A title pattern is a list of parts between semicolons. A part with a minus sign in front excludes
the titles that hold the rest of it; any other part includes the titles that hold it. Blank parts
count for nothing, and a pattern without parts fits every title.
-/
namespace TaggedSuite.Title

/-- The parts of a pattern, without surrounding whitespace. -/
def parts (pattern : List Char) : List (List Char) :=
  ((pattern.splitOn ';').map Text.trim).filter (!·.isEmpty)

/-- The text that a part excludes. A minus sign alone excludes nothing. -/
def excluded? : List Char → Option (List Char)
  | '-' :: c :: rest => some (c :: rest)
  | _ => none

/-- Whether the part includes titles. -/
def isIncluding (part : List Char) : Bool := part.head? != some '-'

/-- The texts that exclude a title. -/
def exclusions (pattern : List Char) : List (List Char) := (parts pattern).filterMap excluded?

/-- The texts of which an included title holds one, unless there are none. -/
def inclusions (pattern : List Char) : List (List Char) := (parts pattern).filter isIncluding

/-- Whether the title holds the text: it begins the title or the rest of the title holds it. -/
def holds : (title text : List Char) → Bool
  | [], text => text.isEmpty
  | c :: rest, text => text.isPrefixOf (c :: rest) || holds rest text

@[simp] theorem holds_iff (title text : List Char) : holds title text = true ↔ text <:+: title := by
  induction title with
  | nil => simp [holds]
  | cons c rest ih => simp [holds, ih, List.infix_cons_iff]

/-- Whether the title holds an excluded text. -/
def isExcluded (pattern title : List Char) : Bool := (exclusions pattern).any (holds title)

/-- Whether nothing has to be included or the title holds an included text. -/
def isIncluded (pattern title : List Char) : Bool :=
  (inclusions pattern).isEmpty || (inclusions pattern).any (holds title)

/-- Whether the whole title fits the pattern. -/
def fits (pattern title : String) : Bool :=
  !isExcluded pattern.toList title.toList && isIncluded pattern.toList title.toList

/-- Whether a title that begins like this may fit the pattern. The rest of the title can add an
included text but cannot take back an excluded one. -/
def mayFit (pattern start : String) : Bool := !isExcluded pattern.toList start.toList

@[simp] theorem fits_empty (title : String) : fits "" title = true := by
  simp [fits, isExcluded, isIncluded, exclusions, inclusions, parts]

end TaggedSuite.Title
