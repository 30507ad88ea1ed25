import Mathlib.Data.List.TakeWhile
import TaggedSuite.Proofs.Text.Lower

/-!
# Names of tags

A label without whitespace and signs has a tag unless it consists of `@` signs alone. The name of a
tag is a label in normal form: an `@` in front of it is the only thing that normalizing takes away.
-/
namespace TaggedSuite.Tag
open Text

lemma isForbidden_lowerChar (c : Char) : isForbidden (lowerChar c) = isForbidden c := by
  have hsign : ∀ d ∈ reserved, (lowerChar c == d) = (c == d) := by
    have hall :
        reserved.all (fun d => caseRanges.all (CaseRange.avoids d.toNat d.toNat)) = true := by
      decide
    intro d hd
    rw [Bool.eq_iff_iff, beq_iff_eq, beq_iff_eq]
    exact lowerChar_eq_iff (List.all_eq_true.mp hall d hd)
  have hreserved : isReserved (lowerChar c) = isReserved c := by
    simp only [isReserved, reserved, List.contains_cons, List.contains_nil]
    simp only [reserved, List.mem_cons, List.not_mem_nil, or_false, forall_eq_or_imp,
      forall_eq] at hsign
    rw [hsign.1, hsign.2.1, hsign.2.2.1, hsign.2.2.2]
  rw [isForbidden, isForbidden, isBlank_lowerChar, hreserved]

/-- Lowering neither makes nor removes whitespace and signs. -/
lemma allowed_lowerChars (cs : List Char) :
    (lowerChars cs).all (fun c => !isForbidden c) = cs.all (fun c => !isForbidden c) := by
  apply all_lowerChars (fun c => by rw [isForbidden_lowerChar]) true
  exact List.all_eq_true.mp (by decide)

lemma allowed_lowerChars_of_allowed {cs : List Char} (h : ∀ c ∈ cs, isForbidden c = false) :
    ∀ c ∈ lowerChars cs, isForbidden c = false := by
  have hall : (lowerChars cs).all (fun c => !isForbidden c) = true := by
    rw [allowed_lowerChars]
    simpa using h
  simpa using hall

/-- Lowering neither makes nor removes an `@`. -/
lemma allAt_lowerChars (cs : List Char) :
    (lowerChars cs).all (fun c => c == '@') = cs.all (fun c => c == '@') := by
  refine all_lowerChars (fun c => ?_) false (by simp) cs
  rw [Bool.eq_iff_iff, beq_iff_eq, beq_iff_eq]
  exact lowerChar_eq_iff (by decide)

lemma trim_eq_self {cs : List Char} (h : ∀ c ∈ cs, isBlank c = false) : trim cs = cs := by
  have hdrop : ∀ ds : List Char, (∀ d ∈ ds, isBlank d = false) → ds.dropWhile isBlank = ds := by
    intro ds hds
    cases ds with
    | nil => rfl
    | cons d rest => simp [hds d List.mem_cons_self]
  have hreverse : ∀ c ∈ cs.reverse, isBlank c = false := fun c hc => h c (List.mem_reverse.mp hc)
  rw [trim, trimLeft, hdrop cs h, trimRight, hdrop _ hreverse, List.reverse_reverse]

lemma isBlank_eq_false {c : Char} (h : isForbidden c = false) : isBlank c = false := by
  simp only [isForbidden, Bool.or_eq_false_iff] at h
  exact h.1

lemma parse_eq_ok_iff {raw : String} {t : Tag} :
    parse raw = .ok t ↔ normalChars raw.toList ≠ [] ∧
      (∀ c ∈ normalChars raw.toList, isForbidden c = false) ∧
      t = ⟨String.ofList (normalChars raw.toList)⟩ := by
  simp only [parse]
  split_ifs with hempty hany
  · simp [List.isEmpty_iff.mp hempty]
  · obtain ⟨c, hc, hf⟩ := List.any_eq_true.mp hany
    refine iff_of_false (fun h => nomatch h) ?_
    rintro ⟨_, hall, _⟩
    rw [hall c hc] at hf
    contradiction
  · have hall : ∀ c ∈ normalChars raw.toList, isForbidden c = false := by
      simpa using hany
    have hne : normalChars raw.toList ≠ [] := by simpa using hempty
    constructor
    · intro h
      exact ⟨hne, hall, (Except.ok.inj h).symm⟩
    · rintro ⟨_, _, rfl⟩
      rfl

/-- Nothing is trimmed from a label without whitespace. -/
lemma normalChars_plain {run : List Char} (h : ∀ c ∈ run, isForbidden c = false) :
    normalChars run = (lowerChars run).dropWhile (· == '@') := by
  rw [normalChars, trim_eq_self fun c hc => isBlank_eq_false (h c hc)]

/-- A label without whitespace and signs has a tag unless it consists of `@` signs alone. -/
theorem parse_plain {run : List Char} (h : ∀ c ∈ run, isForbidden c = false) {t : Tag} :
    parse (String.ofList run) = .ok t ↔
      (¬ ∀ c ∈ run, c = '@') ∧ t = ⟨String.ofList (normalChars run)⟩ := by
  have hnormal := normalChars_plain h
  have hallowed := allowed_lowerChars_of_allowed h
  have hempty : normalChars run = [] ↔ ∀ c ∈ run, c = '@' := by
    rw [hnormal, List.dropWhile_eq_nil_iff, ← List.all_eq_true, allAt_lowerChars]
    simp
  rw [parse_eq_ok_iff, String.toList_ofList]
  constructor
  · rintro ⟨hne, _, ht⟩
    exact ⟨mt hempty.mpr hne, ht⟩
  · rintro ⟨hne, ht⟩
    refine ⟨mt hempty.mp hne, ?_, ht⟩
    intro c hc
    rw [hnormal] at hc
    exact hallowed c ((List.dropWhile_sublist _).mem hc)

/-- The name of a tag that some label has. -/
structure IsName (name : List Char) : Prop where
  nonempty : name ≠ []
  allowed : ∀ c ∈ name, isForbidden c = false
  lower : ∀ c ∈ name, IsLower c
  noAt : name.head? ≠ some '@'

lemma Produced.isName {t : Tag} (h : t.Produced) : IsName t.name.toList := by
  obtain ⟨raw, hraw⟩ := h
  obtain ⟨hne, hall, rfl⟩ := parse_eq_ok_iff.mp hraw
  rw [String.toList_ofList]
  refine ⟨hne, hall, ?_, ?_⟩
  · intro c hc
    exact isLower_of_mem_lowerChars ((List.dropWhile_sublist _).mem hc)
  · intro hhead
    have hfalse := List.head?_dropWhile_not (· == '@') (lowerChars (trim raw.toList))
    rw [normalChars] at hhead
    rw [hhead] at hfalse
    simp at hfalse

/-- Normalizing a name after an `@` gives back the name. -/
lemma IsName.normalChars_at {name : List Char} (h : IsName name) :
    normalChars ('@' :: name) = name := by
  have hlower : ∀ c ∈ '@' :: name, IsLower c := by
    intro c hc
    rcases List.mem_cons.mp hc with rfl | hc
    · exact ⟨by decide, by decide, by decide⟩
    · exact h.lower c hc
  have hblank : ∀ c ∈ '@' :: name, isBlank c = false := by
    intro c hc
    rcases List.mem_cons.mp hc with rfl | hc
    · decide
    · exact isBlank_eq_false (h.allowed c hc)
  rw [normalChars, trim_eq_self hblank, lowerChars_eq_self hlower, List.dropWhile_cons_of_pos rfl]
  cases hname : name with
  | nil => rfl
  | cons c rest =>
    have hc : c ≠ '@' := by
      intro he
      exact h.noAt (by rw [hname, he]; rfl)
    exact List.dropWhile_cons_of_neg (by simpa using hc)

end TaggedSuite.Tag
