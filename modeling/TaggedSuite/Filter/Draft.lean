import TaggedSuite.Filter.Eval
import TaggedSuite.Filter.Printer
import TaggedSuite.Value.Printer

/-!
# Filters assembled by hand

A draft has the shape of a filter but may hold other values where filters belong. Such a value is a
fault only when it is reached: conditions and alternatives are decided from the left, and a draft is
looked at no further than its answer needs.
-/
namespace TaggedSuite.Filter

/-- A filter that may hold foreign values. -/
inductive Draft where
  | all
  | tag (t : Tag)
  | and (left right : Draft)
  | or (left right : Draft)
  | not (operand : Draft)
  | foreign (v : Value)
  deriving Inhabited

namespace Draft

/-- The filter of a draft, or the first foreign value in it. -/
def toFilter : Draft → Except Value Filter
  | all => .ok .all
  | tag t => .ok (.tag t)
  | and l r => return .and (← l.toFilter) (← r.toFilter)
  | or l r => return .or (← l.toFilter) (← r.toFilter)
  | not d => return .not (← d.toFilter)
  | foreign v => .error v

/-- Whether the draft selects a test with these tags, or the foreign value that was reached. -/
def eval (tags : TagSet) : Draft → Except Value Bool
  | all => .ok true
  | tag t => .ok (decide (t ∈ tags))
  | and l r => do if ← l.eval tags then r.eval tags else return false
  | or l r => do if ← l.eval tags then return true else r.eval tags
  | not d => return !(← d.eval tags)
  | foreign v => .error v

def ofFilter : Filter → Draft
  | .all => all
  | .tag t => tag t
  | .and l r => and (ofFilter l) (ofFilter r)
  | .or l r => or (ofFilter l) (ofFilter r)
  | .not f => not (ofFilter f)

@[simp] theorem toFilter_ofFilter (f : Filter) : (ofFilter f).toFilter = .ok f := by
  induction f with
  | all | tag => rfl
  | and l r ihl ihr => simp only [ofFilter, toFilter, ihl, ihr]; rfl
  | or l r ihl ihr => simp only [ofFilter, toFilter, ihl, ihr]; rfl
  | not f ih => simp only [ofFilter, toFilter, ih]; rfl

@[simp] theorem eval_ofFilter (tags : TagSet) (f : Filter) :
    (ofFilter f).eval tags = .ok (f.eval tags) := by
  induction f with
  | all | tag => rfl
  | and l r ihl ihr =>
    simp only [ofFilter, eval, ihl, ihr, Filter.eval]
    cases l.eval tags <;> rfl
  | or l r ihl ihr =>
    simp only [ofFilter, eval, ihl, ihr, Filter.eval]
    cases l.eval tags <;> rfl
  | not f ih => simp only [ofFilter, eval, ih, Filter.eval]; rfl

/-- The wording of the fault that a foreign value is, if the value can be shown. -/
def foreignMessage? (v : Value) : Option String := do
  return s!"Not a filter expression: {← v.shown?}"

end Draft

end TaggedSuite.Filter
