import TaggedSuite.Tag.Basic

/-!
# Filters

A filter selects tests by their tags. `all` selects every test; it is the meaning of a filter text
without any term.
-/
namespace TaggedSuite

/-- A filter over tags. -/
inductive Filter where
  | all
  | tag (t : Tag)
  | and (left right : Filter)
  | or (left right : Filter)
  | not (operand : Filter)
  deriving DecidableEq, Repr, Inhabited

namespace Filter

/-- Whether the filter selects every test because it has no term. -/
def isAll : Filter → Bool
  | all => true
  | _ => false

@[simp] theorem isAll_iff {f : Filter} : f.isAll = true ↔ f = all := by cases f <;> simp [isAll]

def isAnd : Filter → Bool
  | and .. => true
  | _ => false

def isOr : Filter → Bool
  | or .. => true
  | _ => false

def isNot : Filter → Bool
  | not _ => true
  | _ => false

end Filter

end TaggedSuite
