import TaggedSuite.Tag.Basic

/-!
# Sets of tags

A set is the ascending list of its tags, so two sets with the same members are equal.
-/
namespace TaggedSuite

/-- A finite set of tags. -/
structure TagSet where
  tags : List Tag
  ascending : tags.Pairwise (· < ·)
  deriving DecidableEq

namespace TagSet

/-- Puts a tag into an ascending list, unless it is there. -/
def insertTag (t : Tag) : List Tag → List Tag
  | [] => [t]
  | u :: rest =>
    if t < u then t :: u :: rest
    else if t = u then u :: rest
    else u :: insertTag t rest

theorem mem_insertTag {t u : Tag} {tags : List Tag} :
    u ∈ insertTag t tags ↔ u = t ∨ u ∈ tags := by
  induction tags with
  | nil => simp [insertTag]
  | cons v rest ih =>
    simp only [insertTag]
    split
    · simp
    · split
      · next h => subst h; simp
      · simp only [List.mem_cons, ih]
        constructor
        · rintro (h | h | h) <;> simp [h]
        · rintro (h | h | h) <;> simp [h]

theorem insertTag_ascending {t : Tag} {tags : List Tag} (h : tags.Pairwise (· < ·)) :
    (insertTag t tags).Pairwise (· < ·) := by
  induction tags with
  | nil => simp [insertTag]
  | cons v rest ih =>
    rw [List.pairwise_cons] at h
    simp only [insertTag]
    split
    · next htv =>
      refine List.pairwise_cons.2 ⟨fun w hw => ?_, List.pairwise_cons.2 h⟩
      rcases List.mem_cons.1 hw with rfl | hw
      · exact htv
      · exact String.lt_trans htv (h.1 w hw)
    · split
      · exact List.pairwise_cons.2 h
      · next hlt hne =>
        refine List.pairwise_cons.2 ⟨fun w hw => ?_, ih h.2⟩
        rcases mem_insertTag.1 hw with rfl | hw
        · refine String.not_le.1 fun hle => hne ?_
          cases v
          cases w
          exact congrArg Tag.mk (String.le_antisymm hle (String.not_lt.1 hlt))
        · exact h.1 w hw

def empty : TagSet := ⟨[], .nil⟩

instance : EmptyCollection TagSet := ⟨empty⟩
instance : Inhabited TagSet := ⟨empty⟩

def insert (s : TagSet) (t : Tag) : TagSet := ⟨insertTag t s.tags, insertTag_ascending s.ascending⟩

def ofList (tags : List Tag) : TagSet := tags.foldl insert empty

def union (a b : TagSet) : TagSet := b.tags.foldl insert a

/-- The tags of the first set and of all the others. -/
def unionAll (s : TagSet) (others : List TagSet) : TagSet := others.foldl union s

instance : Union TagSet := ⟨union⟩

/-- Membership is that of the list of tags. -/
instance : Membership Tag TagSet := ⟨fun s t => t ∈ s.tags⟩

instance (t : Tag) (s : TagSet) : Decidable (t ∈ s) := inferInstanceAs (Decidable (t ∈ s.tags))

theorem mem_iff {t : Tag} {s : TagSet} : t ∈ s ↔ t ∈ s.tags := Iff.rfl

@[simp] theorem not_mem_empty (t : Tag) : t ∉ empty := by simp [mem_iff, empty]

@[simp] theorem mem_insert {s : TagSet} {t u : Tag} : u ∈ s.insert t ↔ u = t ∨ u ∈ s :=
  mem_insertTag

theorem mem_foldl_insert {tags : List Tag} {s : TagSet} {u : Tag} :
    u ∈ tags.foldl insert s ↔ u ∈ s ∨ u ∈ tags := by
  induction tags generalizing s with
  | nil => simp
  | cons t rest ih =>
    simp only [List.foldl_cons, ih, mem_insert, List.mem_cons]
    constructor
    · rintro ((h | h) | h) <;> simp [h]
    · rintro (h | h | h) <;> simp [h]

@[simp] theorem mem_ofList {tags : List Tag} {t : Tag} : t ∈ ofList tags ↔ t ∈ tags := by
  simp [ofList, mem_foldl_insert]

@[simp] theorem mem_union {a b : TagSet} {t : Tag} : t ∈ a.union b ↔ t ∈ a ∨ t ∈ b :=
  mem_foldl_insert

/-- The names of the tags in ascending order. -/
def names (s : TagSet) : List String := s.tags.map (·.name)

/-- The tags as they are written in a filter, in ascending order. -/
def texts (s : TagSet) : List String := s.tags.map Tag.text

/-- The tags between blanks. -/
def text (s : TagSet) : String := String.intercalate " " s.texts

def shown (s : TagSet) : String :=
  "TagSet(" ++ String.intercalate ", " (s.texts.map Text.quoted) ++ ")"

end TagSet

/-- The tags of a test: those that it declares itself and those of every group around it. -/
def effectiveTags (own : TagSet) (groups : List TagSet) : TagSet := own.unionAll groups

end TaggedSuite
