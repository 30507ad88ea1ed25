import TaggedSuite.Proofs.Text.Lower

/-!
# Lower case between boundaries

The form of a sigma depends on the letters around it, but only as far as the next character that has
no case and is not passed over. Whitespace and the signs of a filter are such characters. A text is
therefore lowered piece by piece: what stands before a boundary does not matter after it, nor what
stands after it before it.
-/
namespace TaggedSuite.Text

variable {c : Char} {before cs rest : List Char}

/-- A character that ends a word and is left alone. -/
structure IsBoundary (c : Char) : Prop where
  lower : IsLower c
  uncased : inRanges casedRanges c.toNat = false
  counted : inRanges caseIgnorableRanges c.toNat = false

/-- The code points of whitespace, the signs of a filter and `@`. -/
def boundaryRanges : List (Nat × Nat) := (40, 41) :: (43, 45) :: (64, 64) :: blankRanges

/-- Whether the two ranges have no number in common. -/
def apart (q r : Nat × Nat) : Bool := Nat.blt q.2 r.1 || Nat.blt r.2 q.1

/-- Whether no character from the first to the last code point has a case, is passed over or has a
counterpart. -/
def separates (r : Nat × Nat) : Bool :=
  casedRanges.all (apart r) && caseIgnorableRanges.all (apart r) &&
    caseRanges.all fun q => apart r (q.1, q.2.1)

lemma apart_iff {q r : Nat × Nat} : apart q r = true ↔ q.2 < r.1 ∨ r.2 < q.1 := by
  simp [apart, Nat.blt_eq]

lemma inRanges_eq_false_of_apart {r : Nat × Nat} {table : List (Nat × Nat)} {n : Nat}
    (h : table.all (apart r) = true) (hlo : r.1 ≤ n) (hhi : n ≤ r.2) :
    inRanges table n = false := by
  rw [inRanges, List.any_eq_false]
  intro q hq
  have hapart := apart_iff.1 (List.all_eq_true.mp h q hq)
  simp only [Bool.and_eq_true, decide_eq_true_eq]
  omega

lemma isBoundary_of_separates {r : Nat × Nat} (h : separates r = true) (hlo : r.1 ≤ c.toNat)
    (hhi : c.toNat ≤ r.2) : IsBoundary c := by
  simp only [separates, Bool.and_eq_true] at h
  obtain ⟨⟨hcased, hignorable⟩, hcase⟩ := h
  have huncased := inRanges_eq_false_of_apart hcased hlo hhi
  refine ⟨⟨?_, ?_, lowerChar_eq_self fun q hq => ?_⟩, huncased,
    inRanges_eq_false_of_apart hignorable hlo hhi⟩
  · rintro rfl
    exact absurd huncased (by decide)
  · rintro rfl
    exact absurd huncased (by decide)
  · have hapart := apart_iff.1 (List.all_eq_true.mp hcase q hq)
    exact lists_eq_false_of_lt (by dsimp only at hapart; omega)

set_option maxRecDepth 4000 in
lemma isBoundary_of_inRanges (h : inRanges boundaryRanges c.toNat = true) : IsBoundary c := by
  have hall : boundaryRanges.all separates = true := by decide
  obtain ⟨r, hr, hc⟩ := List.any_eq_true.mp h
  simp only [Bool.and_eq_true, decide_eq_true_eq] at hc
  exact isBoundary_of_separates (List.all_eq_true.mp hall r hr) hc.1 hc.2

lemma isBoundary_of_isBlank (h : isBlank c = true) : IsBoundary c := by
  refine isBoundary_of_inRanges ?_
  rw [isBlank] at h
  simp only [boundaryRanges, inRanges_cons, h, Bool.or_true]

lemma isBoundary_of_mem (h : c ∈ ['-', '+', ',', '(', ')', '@']) : IsBoundary c := by
  have hall :
      ['-', '+', ',', '(', ')', '@'].all (fun d => inRanges boundaryRanges d.toNat) = true := by
    decide
  exact isBoundary_of_inRanges (List.all_eq_true.mp hall c h)

/-- Looking for a letter ends at a boundary. -/
lemma nextIsCased_boundary (hc : IsBoundary c) (cs rest : List Char) :
    nextIsCased (cs ++ c :: rest) = nextIsCased cs := by
  induction cs with
  | nil => simp [nextIsCased, hc.counted, hc.uncased]
  | cons d cs ih =>
    cases hd : inRanges caseIgnorableRanges d.toNat with
    | true => simpa [nextIsCased, hd] using ih
    | false => simp [nextIsCased, hd]

/-- What stands before a boundary does not matter after it. -/
lemma lowerAfter_before (hc : IsBoundary c) (front : List Char) :
    lowerAfter (front ++ c :: before) cs = lowerAfter front cs := by
  induction cs generalizing front with
  | nil => rfl
  | cons d cs ih =>
    have hrest := ih (d :: front)
    rw [List.cons_append] at hrest
    simp only [lowerAfter, lowerSigma, nextIsCased_boundary hc, hrest]

/-- A boundary is left alone, and lowering starts anew after it. -/
lemma lowerAfter_boundary (hc : IsBoundary c) :
    lowerAfter before (c :: rest) = c :: lowerChars rest := by
  obtain ⟨hsigma, hdot, hself⟩ := hc.lower
  have hrest : lowerAfter (c :: before) rest = lowerChars rest := lowerAfter_before hc []
  simp [lowerAfter, hsigma, hdot, hself, hrest]

lemma lowerAfter_append (hc : IsBoundary c) :
    lowerAfter before (cs ++ c :: rest) = lowerAfter before cs ++ c :: lowerChars rest := by
  induction cs generalizing before with
  | nil => exact lowerAfter_boundary hc
  | cons d cs ih =>
    simp only [List.cons_append, lowerAfter, lowerSigma, nextIsCased_boundary hc, ih,
      List.append_assoc]

/-- A text is lowered in two pieces where the second begins with a boundary. -/
lemma lowerChars_append (h : ∀ c ∈ rest.head?, IsBoundary c) :
    lowerChars (cs ++ rest) = lowerChars cs ++ lowerChars rest := by
  cases rest with
  | nil => simp
  | cons c rest =>
    have hc := h c rfl
    have hrest : lowerChars (c :: rest) = c :: lowerChars rest := lowerAfter_boundary hc
    rw [hrest]
    exact lowerAfter_append hc

/-- Boundaries are left alone in front of a text. -/
lemma lowerChars_boundaries (h : ∀ c ∈ cs, IsBoundary c) :
    lowerChars (cs ++ rest) = cs ++ lowerChars rest := by
  induction cs with
  | nil => rfl
  | cons c cs ih =>
    rw [List.cons_append, lowerChars, lowerAfter_boundary (h c List.mem_cons_self),
      ih fun d hd => h d (List.mem_cons_of_mem c hd), List.cons_append]

@[simp] lemma lowerChars_eq_nil : lowerChars cs = [] ↔ cs = [] := by
  cases cs with
  | nil => simp
  | cons c rest =>
    simp only [lowerChars, lowerAfter]
    split_ifs <;> simp

/-- A class of characters that counterparts respect keeps the first character of a text, or keeps
out of it. The characters of the two rules for words are all in it or all outside. -/
lemma forall_head_lowerChars {p : Char → Bool} (hp : ∀ c, p (lowerChar c) = p c) (b : Bool)
    (hs : ['Σ', 'σ', 'ς', 'İ', 'i', '\u0307'].all (p · == b) = true) {d : Bool}
    (h : ∀ c ∈ cs.head?, p c = d) : ∀ c ∈ (lowerChars cs).head?, p c = d := by
  have hs : ∀ e ∈ ['Σ', 'σ', 'ς', 'İ', 'i', '\u0307'], p e = b :=
    fun e he => beq_iff_eq.1 (List.all_eq_true.1 hs e he)
  cases cs with
  | nil => exact h
  | cons c rest =>
    have hc := h c rfl
    intro e he
    simp only [lowerChars, lowerAfter] at he
    split_ifs at he with hsigma hdot
    · rw [beq_iff_eq.mp hsigma, hs 'Σ' (by simp)] at hc
      obtain rfl : lowerSigma [] rest = e := Option.some.inj he
      rw [← hc, lowerSigma]
      split_ifs
      · exact hs 'ς' (by simp)
      · exact hs 'σ' (by simp)
    · rw [beq_iff_eq.mp hdot, hs 'İ' (by simp)] at hc
      obtain rfl : 'i' = e := Option.some.inj he
      rw [← hc]
      exact hs 'i' (by simp)
    · obtain rfl : lowerChar c = e := Option.some.inj he
      rw [hp, hc]

end TaggedSuite.Text
