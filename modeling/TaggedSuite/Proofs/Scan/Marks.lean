import TaggedSuite.Proofs.Tag.Marker
import TaggedSuite.Scan.Basic

/-!
# Marks that are read and marks that are collected

The scan reads the marker calls in an expression, and a collected test carries markers with what the
arguments of these calls stand for. Where the scan has nothing to report, both give the same tags.
-/
namespace TaggedSuite.Scan
open Source

variable {e : Expr} {args : List Expr} {t : Tag} {f : Finding} {line : Nat} {labels : List Label}

lemma mem_gather {parts : List (TagSet × List Finding)} :
    t ∈ (gather parts).1 ↔ ∃ p ∈ parts, t ∈ p.1 := by
  simp [gather, TagSet.mem_unionAll]

lemma mem_gather_found {parts : List (TagSet × List Finding)} :
    f ∈ (gather parts).2 ↔ ∃ p ∈ parts, f ∈ p.2 := by
  simp only [gather, List.mem_flatten, List.mem_map, exists_exists_and_eq_and]

lemma marksEach_eq_map (es : List Expr) : marksEach es = es.map marks := by
  induction es with
  | nil => rfl
  | cons e es ih => rw [marksEach, ih, List.map_cons]

lemma isMark_of_isTagsMark (h : isTagsMark e = true) : isMark e = true := by
  unfold isTagsMark at h
  split at h
  · exact (Bool.and_eq_true_iff.1 h).1
  · contradiction

/-! ### What literals stand for -/

/-- The expression is the constant with the text. -/
def IsText (e : Expr) (text : String) : Prop := ∃ line, e = .text line text

/-- The label is what a literal stands for: a text, or a list, a tuple or a set of texts. The
members of a set are in any order. -/
inductive Denotes : Expr → Label → Prop
  | text {line : Nat} {x : String} : Denotes (.text line x) (.value (.str x))
  | list {line : Nat} {items : List Expr} {texts : List String}
    (h : List.Forall₂ IsText items texts) :
    Denotes (.display line .list items) (.list (texts.map fun x => .value (.str x)))
  | tuple {line : Nat} {items : List Expr} {texts : List String}
    (h : List.Forall₂ IsText items texts) :
    Denotes (.display line .tuple items) (.tuple (texts.map fun x => .value (.str x)))
  | set {line : Nat} {items : List Expr} {texts members : List String}
    (h : List.Forall₂ IsText items texts) (hsame : ∀ x, x ∈ members ↔ x ∈ texts) :
    Denotes (.display line .set items) (.value (.set (members.map .str)))

lemma textValue?_eq_some {text : String} : textValue? e = some text ↔ IsText e text := by
  cases e <;> simp [textValue?, IsText]

lemma mapM_textValue?_eq_some {items : List Expr} {texts : List String} :
    items.mapM textValue? = some texts ↔ List.Forall₂ IsText items texts := by
  induction items generalizing texts with
  | nil => cases texts <;> simp
  | cons e items ih =>
    rw [List.mapM_cons]
    cases he : textValue? e with
    | none => cases texts <;> simp [← textValue?_eq_some, he]
    | some x =>
      cases hrest : items.mapM textValue? with
      | none => cases texts <;> simp [← ih, ← textValue?_eq_some, he, hrest]
      | some rest => cases texts <;> simp [← ih, ← textValue?_eq_some, he, hrest]

/-- What a literal stands for has the texts as its members that the scan reads. -/
lemma Denotes.texts {l : Label} (h : Denotes e l) :
    ∃ texts members : List String, argumentLabels? e = some texts ∧
      l.spreadMarkerArgument = .ok (members.map fun x => Label.value (.str x)) ∧
      ∀ x, x ∈ members ↔ x ∈ texts := by
  cases h with
  | text => exact ⟨_, _, rfl, rfl, fun _ => Iff.rfl⟩
  | list h | tuple h => exact ⟨_, _, mapM_textValue?_eq_some.2 h, rfl, fun _ => Iff.rfl⟩
  | @set _ _ texts members h hsame =>
    refine ⟨texts, members, mapM_textValue?_eq_some.2 h, ?_, hsame⟩
    simp [Label.spreadMarkerArgument]

/-- Whatever the scan reads as labels is a literal. -/
lemma exists_denotes {texts : List String} (h : argumentLabels? e = some texts) :
    ∃ l, Denotes e l := by
  cases e with
  | text line x => exact ⟨_, .text⟩
  | display line kind items =>
    have hitems := mapM_textValue?_eq_some.1 h
    cases kind with
    | list => exact ⟨_, .list hitems⟩
    | tuple => exact ⟨_, .tuple hitems⟩
    | set => exact ⟨_, .set hitems fun _ => Iff.rfl⟩
  | _ => contradiction

/-- The labels of a marker call have the texts as their members that the scan reads. -/
lemma exists_texts (h : List.Forall₂ Denotes args labels) :
    ∃ textss memberss : List (List String), args.map argumentLabels? = textss.map some ∧
      List.Forall₂ (fun l texts => l.spreadMarkerArgument =
        .ok (texts.map fun x => Label.value (.str x))) labels memberss ∧
      ∀ x, x ∈ memberss.flatten ↔ x ∈ textss.flatten := by
  induction h with
  | nil => exact ⟨[], [], rfl, .nil, fun _ => Iff.rfl⟩
  | cons hfirst _ ih =>
    obtain ⟨texts, members, hread, hspread, hsame⟩ := hfirst.texts
    obtain ⟨textss, memberss, hreads, hspreads, hsames⟩ := ih
    refine ⟨texts :: textss, members :: memberss, ?_, .cons hspread hspreads, fun x => ?_⟩
    · rw [List.map_cons, List.map_cons, hread, hreads]
    · simp only [List.flatten_cons, List.mem_append, hsame, hsames]

/-- A call without computed arguments declares the tags of its texts, or one of them is no tag. -/
lemma markArguments_of_texts (line : Nat) {textss : List (List String)}
    (h : args.map argumentLabels? = textss.map some) :
    (∃ s, markArguments line args = (s, []) ∧ TagSet.ofTexts textss.flatten = .ok s) ∨
      ((markArguments line args).2 ≠ [] ∧ ∃ e, TagSet.ofTexts textss.flatten = .error e) := by
  have hcomputed : args.filter (fun a => (argumentLabels? a).isNone) = [] := by
    refine List.filter_eq_nil_iff.2 fun a ha => ?_
    obtain ⟨texts, -, htexts⟩ := List.mem_map.1 (h ▸ List.mem_map_of_mem ha)
    simp [← htexts]
  have hlabels : args.filterMap argumentLabels? = textss := by
    have hmap : args.filterMap argumentLabels? = (args.map argumentLabels?).filterMap id := by
      rw [List.filterMap_map]
      rfl
    rw [hmap, h, List.filterMap_map]
    simp
  cases hparsed : textss.flatten.mapM Tag.parse with
  | ok tags =>
    exact .inl ⟨TagSet.ofList tags, by simp [markArguments, hcomputed, hlabels, hparsed],
      by simp [TagSet.ofTexts, hparsed]⟩
  | error e =>
    exact .inr ⟨by simp [markArguments, hcomputed, hlabels, hparsed], e,
      by simp [TagSet.ofTexts, hparsed]⟩

/-- What a marker call reports is the same as what its labels come to: the scan reads it as it is
collected, or it has a label that stops the collection. -/
lemma markArguments_spec (line : Nat) (h : List.Forall₂ Denotes args labels) :
    (∃ s, markArguments line args = (s, []) ∧ TagSet.ofMarkerArguments labels = .ok s) ∨
      ((markArguments line args).2 ≠ [] ∧ ∃ e, TagSet.ofMarkerArguments labels = .error e ∧
        ∀ kind, e ≠ .noMembers kind) := by
  obtain ⟨textss, memberss, hread, hspread, hsame⟩ := exists_texts h
  rw [TagSet.ofMarkerArguments_eq_ofTexts hspread]
  rcases markArguments_of_texts line hread with ⟨s, hs, htexts⟩ | ⟨hfound, e, he⟩
  · exact .inl ⟨s, hs, (TagSet.ofTexts_congr hsame).2 htexts⟩
  · refine .inr ⟨hfound, ?_⟩
    cases hmembers : TagSet.ofTexts memberss.flatten with
    | ok s =>
      rw [TagSet.ofTexts_congr hsame, he] at hmembers
      contradiction
    | error e' => exact ⟨e', rfl, TagSet.ne_noMembers_of_ofTexts hmembers⟩

/-- The call declares the tags: its arguments are literals, and the labels that they stand for come
to these tags. -/
def Declares (args : List Expr) (s : TagSet) : Prop :=
  (∃ labels, List.Forall₂ Denotes args labels) ∧
    ∀ labels, List.Forall₂ Denotes args labels → TagSet.ofMarkerArguments labels = .ok s

/-- A call that the scan reads without a report declares the tags that the scan reads. -/
lemma declares_of_exact (h : (markArguments line args).2 = []) :
    Declares args (markArguments line args).1 := by
  have hcomputed : args.filter (fun a => (argumentLabels? a).isNone) = [] := by
    rw [markArguments] at h
    split at h <;> simp_all
  have hlabels : ∃ labels, List.Forall₂ Denotes args labels := by
    clear h
    induction args with
    | nil => exact ⟨[], .nil⟩
    | cons a args ih =>
      rw [List.filter_eq_nil_iff, List.forall_mem_cons] at hcomputed
      have hread : argumentLabels? a ≠ none := by simpa using hcomputed.1
      obtain ⟨texts, htexts⟩ := Option.ne_none_iff_exists'.1 hread
      obtain ⟨l, hl⟩ := exists_denotes htexts
      obtain ⟨labels, hrest⟩ := ih (List.filter_eq_nil_iff.2 hcomputed.2)
      exact ⟨l :: labels, .cons hl hrest⟩
  refine ⟨hlabels, fun labels hdenotes => ?_⟩
  rcases markArguments_spec line hdenotes with ⟨s, hs, htags⟩ | ⟨hfound, -⟩
  · rw [hs, htags]
  · contradiction

/-! ### Marker calls in an expression -/

mutual

/-- The arguments of the marker calls that an expression stands for. A marker without a call has no
arguments. -/
def markerCalls : Expr → List (List Expr)
  | .display _ kind items =>
    match kind with
    | .list | .tuple => markerCallsEach items
    | .set => []
  | .call _ func args _ => if isTagsMark func then [args] else []
  | e => if isTagsMark e then [[]] else []

/-- The marker calls of several expressions. -/
def markerCallsEach : List Expr → List (List Expr)
  | [] => []
  | e :: rest => markerCalls e ++ markerCallsEach rest

end

lemma markerCallsEach_eq_flatMap (es : List Expr) :
    markerCallsEach es = es.flatMap markerCalls := by
  induction es with
  | nil => rfl
  | cons e es ih => rw [markerCallsEach, ih, List.flatMap_cons]

/-- What the scan reads is what the calls declare, unless there is something to report. -/
def Agrees (read : TagSet × List Finding) (calls : List (List Expr)) : Prop :=
  read.2 = [] → (∀ args ∈ calls, ∃ s, Declares args s) ∧
    ∀ t, t ∈ read.1 ↔ ∃ args ∈ calls, ∃ s, Declares args s ∧ t ∈ s

lemma Agrees.gather {parts : List (TagSet × List Finding)} {callss : List (List (List Expr))}
    (h : List.Forall₂ Agrees parts callss) : Agrees (gather parts) callss.flatten := by
  intro hexact
  have hparts : ∀ p ∈ parts, p.2 = [] := fun p hp =>
    List.eq_nil_iff_forall_not_mem.2 fun f hf =>
      List.not_mem_nil (hexact ▸ mem_gather_found.2 ⟨p, hp, hf⟩)
  simp only [mem_gather]
  clear hexact
  induction h with
  | nil => simp
  | @cons p calls parts callss hfirst _ ih =>
    obtain ⟨hp, hrest⟩ := List.forall_mem_cons.1 hparts
    obtain ⟨hall, hmem⟩ := hfirst hp
    obtain ⟨halls, hmems⟩ := ih hrest
    refine ⟨fun args hargs => ?_, fun t => ?_⟩
    · rcases List.mem_append.1 hargs with hargs | hargs
      · exact hall args hargs
      · exact halls args hargs
    · rw [List.exists_mem_cons_iff, hmem, hmems, List.flatten_cons]
      simp only [List.mem_append, or_and_right, exists_or]

lemma agrees_nil {found : List Finding} : Agrees (.empty, found) [] := by
  intro _
  simp

lemma agrees_call : Agrees (markArguments line args) [args] := by
  intro h
  have hdeclares := declares_of_exact h
  obtain ⟨labels, hlabels⟩ := hdeclares.1
  simp only [List.mem_singleton, forall_eq, exists_eq_left]
  refine ⟨⟨_, hdeclares⟩, fun t => ⟨fun ht => ⟨_, hdeclares, ht⟩, ?_⟩⟩
  rintro ⟨s, hs, ht⟩
  have hsame := (hdeclares.2 labels hlabels).symm.trans (hs.2 labels hlabels)
  cases hsame
  exact ht

lemma agrees_markWithoutTags (e : Expr) :
    Agrees (markWithoutTags e) (if isTagsMark e then [[]] else []) := by
  rw [markWithoutTags]
  split_ifs with hmark htags htags
  · have hcall : Agrees (markArguments 0 []) [[]] := agrees_call
    exact hcall
  · exact agrees_nil
  · exact absurd (isMark_of_isTagsMark htags) hmark
  · exact agrees_nil

mutual

theorem marks_agrees : ∀ e : Expr, Agrees (marks e) (markerCalls e)
  | .display line kind items => by
    cases kind with
    | list | tuple =>
      rw [marks, markerCalls, markerCallsEach_eq_flatMap]
      exact .gather (marksEach_agrees items)
    | set => exact fun h => nomatch h
  | .call line func args keywords => by
    rw [marks, markerCalls]
    split_ifs
    · exact agrees_call
    · exact agrees_nil
    · exact agrees_nil
  | .name .. | .text .. | .attribute .. | .keyword .. | .starred .. | .subscript ..
  | .other .. => by
    simp only [marks, markerCalls]
    exact agrees_markWithoutTags _

theorem marksEach_agrees :
    ∀ es : List Expr, List.Forall₂ Agrees (marksEach es) (es.map markerCalls)
  | [] => .nil
  | e :: es => .cons (marks_agrees e) (marksEach_agrees es)

end

/-! ### What a marker call reports -/

/-- The call stands among the marks of an expression: it is one, or a list or tuple of marks holds
it. -/
inductive Holds : Expr → Expr → Prop
  | self {e : Expr} : Holds e e
  | item {line : Nat} {kind : DisplayKind} {items : List Expr} {e call : Expr}
    (hkind : kind ≠ .set) (hmem : e ∈ items) (h : Holds e call) :
    Holds (.display line kind items) call

/-- What a call reports is reported for the marks that it stands among. -/
lemma Holds.found {call : Expr} (h : Holds e call) (hf : f ∈ (marks call).2) : f ∈ (marks e).2 := by
  induction h with
  | self => exact hf
  | @item line kind items e call hkind hmem _ ih =>
    have hgather : marks (.display line kind items) = gather (marksEach items) := by
      cases kind with
      | list | tuple => rw [marks]
      | set => contradiction
    rw [hgather, marksEach_eq_map]
    exact mem_gather_found.2 ⟨marks e, List.mem_map_of_mem hmem, ih hf⟩

/-- Constants report nothing. -/
lemma levels_of_texts {items : List Expr} {texts : List String}
    (h : List.Forall₂ IsText items texts) : (expressionsLevels items).flatten = [] := by
  induction h with
  | nil => rfl
  | cons hfirst _ ih =>
    obtain ⟨line, rfl⟩ := hfirst
    rw [expressionsLevels, expressionLevels]
    exact ih

lemma Denotes.levels {l : Label} (h : Denotes e l) : (expressionLevels e).flatten = [] := by
  cases h with
  | text => rfl
  | list h | tuple h | set h => exact levels_of_texts h

lemma levels_of_denotes (h : List.Forall₂ Denotes args labels) :
    (expressionsLevels args).flatten = [] := by
  induction h with
  | nil => rfl
  | cons hfirst _ ih =>
    rw [expressionsLevels, List.eq_nil_iff_forall_not_mem]
    intro f hf
    rcases mem_flatten_joinLevels.1 hf with hf | hf
    · simp [hfirst.levels] at hf
    · simp [ih] at hf

lemma levels_of_isTagsMark (h : isTagsMark e = true) : (expressionLevels e).flatten = [] := by
  unfold isTagsMark at h
  split at h
  · next line value attr =>
    have hnamespace : isMarkNamespace value = true := (Bool.and_eq_true_iff.1 h).1
    unfold isMarkNamespace at hnamespace
    split at hnamespace
    · rfl
    · rfl
    · contradiction
  · contradiction

/-- A marker call of literals reports nothing beside what its labels and its keywords report. -/
lemma mem_levels_call {func : Expr} {keywords : List Expr} (hfunc : isTagsMark func = true)
    (h : List.Forall₂ Denotes args labels) :
    f ∈ (expressionLevels (.call line func args keywords)).flatten ↔
      f ∈ (expressionsLevels keywords).flatten := by
  have hown : expressionFindings (.call line func args keywords) = [] := by
    unfold isTagsMark at hfunc
    split at hfunc
    · next line' value attr =>
      have hattr : attr = tagsMarker := by simpa using (Bool.and_eq_true_iff.1 hfunc).2
      subst hattr
      rfl
    · contradiction
  rw [expressionLevels, hown, List.flatten_cons, List.nil_append, mem_flatten_joinLevels,
    mem_flatten_joinLevels, levels_of_isTagsMark hfunc, levels_of_denotes h]
  simp

end TaggedSuite.Scan
