import Mathlib.Data.List.Nodup
import Mathlib.Data.List.Perm.Basic
import TaggedSuite.Proofs.Value.Writable
import TaggedSuite.Run.Collection

/-!
# The tags of markers

A marker declares the tags of its labels, and a test has the tags of all its markers. What comes of
it depends on which labels there are and not on their order, neither within a marker nor from one
marker to the next. What is wrong with a label is a matter of tags, as long as it can be told of.
-/
namespace TaggedSuite

/-! ### What is wrong with labels -/

namespace Label

variable {l m : Label} {members : List Label} {e : TagError}

/-- A label that messages can show. -/
def IsWritable (l : Label) : Prop := l.shown?.isSome = true

lemma isSome_shownMembers?_iff :
    (shownMembers? members).isSome = true ↔ ∀ m ∈ members, m.IsWritable := by
  induction members with
  | nil => simp [shownMembers?]
  | cons m members ih =>
    rw [List.forall_mem_cons, ← ih, IsWritable, shownMembers?]
    cases m.shown? <;> cases shownMembers? members <;> simp

lemma isWritable_list : IsWritable (.list members) ↔ ∀ m ∈ members, m.IsWritable := by
  rw [← isSome_shownMembers?_iff, IsWritable, shown?]
  cases shownMembers? members <;> simp

end Label

namespace TagSet

variable {a b s : TagSet} {t : Tag} {texts others : List String}

lemma nodup_tags (s : TagSet) : s.tags.Nodup := by
  refine s.ascending.imp fun hlt => ?_
  rintro rfl
  exact String.lt_irrefl _ hlt

/-- A set is given by its members. -/
lemma ext (h : ∀ t, t ∈ a ↔ t ∈ b) : a = b := by
  have hperm : a.tags.Perm b.tags :=
    (List.perm_ext_iff_of_nodup a.nodup_tags b.nodup_tags).2 h
  have htags : a.tags = b.tags := by
    refine hperm.eq_of_pairwise (fun x y _ _ hxy hyx => ?_) a.ascending b.ascending
    exact absurd (String.lt_trans hxy hyx) (String.lt_irrefl _)
  cases a
  cases b
  simp_all

lemma mem_unionAll {sets : List TagSet} :
    t ∈ s.unionAll sets ↔ t ∈ s ∨ ∃ a ∈ sets, t ∈ a := by
  induction sets generalizing s with
  | nil => simp [unionAll]
  | cons a sets ih =>
    have hcons : s.unionAll (a :: sets) = (s.union a).unionAll sets := rfl
    rw [hcons, ih, mem_union, List.exists_mem_cons_iff, or_assoc]

/-- The tags that texts declare. -/
def ofTexts (texts : List String) : Except TagError TagSet := ofList <$> texts.mapM Tag.parse

lemma ofTexts_eq_ok :
    ofTexts texts = .ok s ↔
      (∀ x ∈ texts, ∃ t, Tag.parse x = .ok t) ∧ ∀ t, t ∈ s ↔ ∃ x ∈ texts, Tag.parse x = .ok t := by
  constructor
  · intro h
    cases htags : texts.mapM Tag.parse with
    | error e => simp [ofTexts, htags] at h
    | ok tags =>
      simp only [ofTexts, htags, Except.map_ok, Except.ok.injEq] at h
      subst h
      obtain ⟨hall, hmem⟩ := mem_of_mapM_eq_ok htags
      exact ⟨hall, fun t => by rw [mem_ofList, hmem]⟩
  · rintro ⟨hall, hmem⟩
    obtain ⟨tags, htags⟩ := exists_mapM_eq_ok hall
    simp only [ofTexts, htags, Except.map_ok, Except.ok.injEq]
    refine ext fun t => ?_
    rw [mem_ofList, (mem_of_mapM_eq_ok htags).2, hmem]

/-- Neither the order nor the number of times matters in which texts are listed. -/
lemma ofTexts_congr (h : ∀ x, x ∈ texts ↔ x ∈ others) :
    ofTexts texts = .ok s ↔ ofTexts others = .ok s := by
  simp only [ofTexts_eq_ok, h]

/-- What is wrong with texts is wrong with one of them as a tag. -/
lemma ne_noMembers_of_ofTexts {e : TagError} (h : ofTexts texts = .error e) (kind : String) :
    e ≠ .noMembers kind := by
  cases htags : texts.mapM Tag.parse with
  | ok tags => simp [ofTexts, htags] at h
  | error e' =>
    simp only [ofTexts, htags, Except.map_error, Except.error.injEq] at h
    obtain ⟨x, -, hx⟩ := exists_of_mapM_eq_error htags
    rw [Tag.parse] at hx
    rintro rfl
    subst h
    split_ifs at hx <;> cases hx

/-- The labels of a marker that are texts, alone or in lists and sets, declare the tags of the
texts. -/
lemma ofMarkerArguments_eq_ofTexts {labels : List Label} {textss : List (List String)}
    (h : List.Forall₂ (fun l texts => l.spreadMarkerArgument =
      .ok (texts.map fun x => Label.value (.str x))) labels textss) :
    ofMarkerArguments labels = ofTexts textss.flatten := by
  have hspread : labels.mapM Label.spreadMarkerArgument =
      .ok (textss.map fun texts => texts.map fun x => Label.value (.str x)) := by
    rw [mapM_eq_ok, List.forall₂_map_right_iff]
    exact h
  rw [ofMarkerArguments, hspread, ofTexts]
  simp only [bind, Except.bind, ofSingles, ← List.map_flatten, List.mapM_map]
  rfl

lemma exists_tagsOf {markers : List (List Label)}
    (hall : ∀ m ∈ markers, ∃ a, ofMarkerArguments m = .ok a) :
    ∃ s, TestItem.tagsOf markers = .ok s ∧
      ∀ t, t ∈ s ↔ ∃ m ∈ markers, ∃ a, ofMarkerArguments m = .ok a ∧ t ∈ a := by
  induction markers with
  | nil => exact ⟨.empty, rfl, by simp⟩
  | cons m markers ih =>
    obtain ⟨⟨a, ha⟩, hrest⟩ := List.forall_mem_cons.1 hall
    obtain ⟨b, hb, hmem⟩ := ih hrest
    refine ⟨a.union b, ?_, fun t => ?_⟩
    · simp only [TestItem.tagsOf, ha, hb, bind, Except.bind, pure, Except.pure]
    · simp only [mem_union, hmem, List.exists_mem_cons_iff, ha, Except.ok.injEq, exists_eq_left']

/-- A test has the tags of its markers, whatever their order. -/
lemma tagsOf_eq_ok {markers : List (List Label)}
    (hall : ∀ m ∈ markers, ∃ a, ofMarkerArguments m = .ok a)
    (hs : ∀ t, t ∈ s ↔ ∃ m ∈ markers, ∃ a, ofMarkerArguments m = .ok a ∧ t ∈ a) :
    TestItem.tagsOf markers = .ok s := by
  obtain ⟨b, hb, hmem⟩ := exists_tagsOf hall
  rw [hb, ext fun t => (hmem t).trans (hs t).symm]

end TagSet

end TaggedSuite
