/-!
# Lists by depth

What is found in a tree can be kept by depth: one list for each level, the highest level first. The
lists of trees that stand side by side are joined level by level.
-/
namespace TaggedSuite

/-- Joins two lists of levels level by level. -/
def joinLevels {α : Type} : List (List α) → List (List α) → List (List α)
  | [], levels => levels
  | levels, [] => levels
  | a :: as, b :: bs => (a ++ b) :: joinLevels as bs

/-- Joins any number of lists of levels level by level. -/
def joinAllLevels {α : Type} (parts : List (List (List α))) : List (List α) :=
  parts.foldr joinLevels []

@[simp] theorem joinLevels_nil {α : Type} (levels : List (List α)) :
    joinLevels [] levels = levels := by
  cases levels <;> rfl

theorem mem_flatten_joinLevels {α : Type} {x : α} {as bs : List (List α)} :
    x ∈ (joinLevels as bs).flatten ↔ x ∈ as.flatten ∨ x ∈ bs.flatten := by
  fun_induction joinLevels as bs with
  | case1 levels => simp
  | case2 levels => simp
  | case3 a as b bs ih =>
    simp only [List.flatten_cons, List.mem_append, ih]
    constructor
    · rintro ((h | h) | h | h) <;> simp [h]
    · rintro ((h | h) | h | h) <;> simp [h]

end TaggedSuite
