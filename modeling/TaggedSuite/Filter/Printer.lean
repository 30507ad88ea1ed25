import TaggedSuite.Filter.Expr

/-!
# Writing a filter

The text of a filter has a plus sign between conditions, a blank between alternatives, a minus sign
before a negated factor, and parentheses only where reading would otherwise group differently.
-/
namespace TaggedSuite.Filter

/-- Puts parentheses around the characters if asked to. -/
def wrapIf (grouped : Bool) (cs : List Char) : List Char :=
  if grouped then '(' :: cs ++ [')'] else cs

/-- The characters of a filter's text. -/
def chars : Filter → List Char
  | all => []
  | tag t => '@' :: t.name.toList
  | not f => '-' :: wrapIf (f.isAnd || f.isOr) f.chars
  | and l r => wrapIf l.isOr l.chars ++ '+' :: wrapIf (r.isOr || r.isAnd) r.chars
  | or l r => wrapIf l.isNot l.chars ++ ' ' :: wrapIf (r.isOr || r.isNot) r.chars

def text (f : Filter) : String := String.ofList f.chars

@[simp] theorem toList_text (f : Filter) : f.text.toList = f.chars := by simp [text]

/-- The text of a filter in a report, where a filter without terms has a name. -/
def label (f : Filter) : String := if f.text = "" then "<all>" else f.text

end TaggedSuite.Filter
