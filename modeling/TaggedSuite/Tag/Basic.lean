import TaggedSuite.Number.Numeral
import TaggedSuite.Text.Lower

/-!
# Tags

A tag is the normal form of a label that a test declares: without surrounding whitespace, in lower
case, and without the `@` signs in front. A tag is never empty, and it holds neither whitespace nor
a character that separates or groups the terms of a filter.
-/
namespace TaggedSuite

/-- A normalized label, stored without the leading `@`. -/
structure Tag where
  name : String
  deriving DecidableEq, Repr, Inhabited

/-- Why something is not a label. -/
inductive TagError where
  /-- Something other than a text stands where a label belongs. -/
  | notText (kind shown : String)
  /-- Nothing is left of the label. -/
  | empty (raw : String)
  /-- The label holds whitespace or a reserved character inside. -/
  | malformed (raw : String)
  /-- A marker argument is neither a label nor a list of labels. -/
  | unsupported (shown : String)
  /-- Labels are asked of something that has no members. -/
  | noMembers (kind : String)
  /-- What is no label cannot even be shown. -/
  | unwritable
  deriving DecidableEq, Repr

namespace Tag

/-- Characters with a meaning in filters, in the order in which messages list them. -/
def reserved : List Char := ['(', ')', '+', ',']

/-- Whether the character has a meaning in filters. -/
def isReserved (c : Char) : Bool := reserved.contains c

/-- Whether the character cannot occur in a tag. -/
def isForbidden (c : Char) : Bool := Text.isBlank c || isReserved c

/-- The normal form of a label before it is checked. -/
def normalChars (raw : List Char) : List Char :=
  (Text.lowerChars (Text.trim raw)).dropWhile (· == '@')

def parse (raw : String) : Except TagError Tag :=
  let name := normalChars raw.toList
  if name.isEmpty then .error (.empty raw)
  else if name.any isForbidden then .error (.malformed raw)
  else .ok ⟨String.ofList name⟩

/-- A tag as it is written in a filter. -/
def text (t : Tag) : String := "@" ++ t.name

/-- Tags are ordered by the code points of their names. -/
instance : LT Tag := ⟨fun a b => a.name < b.name⟩

instance (a b : Tag) : Decidable (a < b) := inferInstanceAs (Decidable (a.name < b.name))

/-- Whether some label has this tag. -/
def Produced (t : Tag) : Prop := ∃ raw, parse raw = .ok t

end Tag

def TagError.message : TagError → String
  | notText kind shown => s!"Tag must be a string, got {kind}: {shown}"
  | empty raw => s!"Empty tag after normalization: {Text.quoted raw}"
  | malformed raw =>
    s!"Tag {Text.quoted raw} contains whitespace or one of the reserved characters " ++
      Text.quoted (String.ofList Tag.reserved)
  | unsupported shown => s!"Unsupported tag marker argument: {shown}"
  | noMembers kind => s!"'{kind}' object is not iterable"
  | unwritable => Numeral.unwritableText

/-- Whether the fault is one of labels as such. Any other one is a fault of the program. -/
def TagError.isReported : TagError → Bool
  | noMembers _ | unwritable => false
  | _ => true

end TaggedSuite
