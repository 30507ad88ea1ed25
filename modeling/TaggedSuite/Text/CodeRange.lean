/-!
# Classes of code points

A character class that follows a published table is a list of ranges of code points.
-/
namespace TaggedSuite.Text

/-- Whether the code point lies in one of the ranges; both ends of a range belong to it. -/
def inRanges (ranges : List (Nat × Nat)) (n : Nat) : Bool :=
  ranges.any fun r => r.1 ≤ n && n ≤ r.2

@[simp] theorem inRanges_nil (n : Nat) : inRanges [] n = false := rfl

theorem inRanges_cons (lo hi : Nat) (ranges : List (Nat × Nat)) (n : Nat) :
    inRanges ((lo, hi) :: ranges) n = ((lo ≤ n && n ≤ hi) || inRanges ranges n) := rfl

end TaggedSuite.Text
