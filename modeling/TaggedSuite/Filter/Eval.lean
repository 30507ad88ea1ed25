import TaggedSuite.Filter.Expr
import TaggedSuite.Tag.Set

/-!
# What a filter selects
-/
namespace TaggedSuite.Filter

/-- Whether the filter selects a test with these tags. -/
def eval (tags : TagSet) : Filter → Bool
  | all => true
  | tag t => t ∈ tags
  | and l r => l.eval tags && r.eval tags
  | or l r => l.eval tags || r.eval tags
  | not f => !f.eval tags

end TaggedSuite.Filter
