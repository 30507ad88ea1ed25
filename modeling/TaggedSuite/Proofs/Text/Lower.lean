import Mathlib.Tactic.Common
import TaggedSuite.Tag.Basic

/-!
# Lower case is stable

The lower-case counterparts are read off a table of ranges. Three checks over the table carry
everything here: counterparts are characters, no counterpart has a counterpart of its own, and
neither the ranges nor their counterparts touch whitespace or the signs of a filter. Hence lowering
a second time changes nothing, and lowering neither makes nor removes whitespace or a sign.
-/
namespace TaggedSuite.Text

/-- A range (first, last, step, offset) of the table of lower-case counterparts. -/
abbrev CaseRange := Nat × Nat × Nat × Int

/-- The table with the range of the ASCII letters in front. -/
def caseRanges : List CaseRange := (65, 90, 1, 32) :: lowerRanges

namespace CaseRange

/-- Whether the range lists the code point. -/
def lists (r : CaseRange) (n : Nat) : Bool :=
  r.1 ≤ n && n ≤ r.2.1 && (n - r.1) % r.2.2.1 == 0

/-- The lower-case counterpart of a code point in the range. -/
def image (r : CaseRange) (n : Nat) : Nat := (n + r.2.2.2).toNat

/-- Whether all counterparts are characters, and every one or every second code point is listed. -/
def wellFormed (r : CaseRange) : Bool :=
  (r.2.2.1 == 1 || r.2.2.1 == 2) && decide (0 ≤ r.1 + r.2.2.2) &&
    (r.image r.2.1 < 0xD800 || (0xE000 ≤ r.image r.1 && r.image r.2.1 < 0x110000))

/-- Whether no range of the table lists a number from `first` to `last`. With `alternate` only
every second of these numbers counts. -/
def unlisted (first last : Nat) (alternate : Bool) (table : List CaseRange) : Bool :=
  table.all fun q => Nat.blt last q.1 || Nat.blt q.2.1 first ||
    (alternate && Nat.beq q.2.2.1 2 && Nat.beq ((first + q.1) % 2) 1)

/-- Whether the counterparts of the range have no counterparts of their own. -/
def settled (r : CaseRange) : Bool :=
  unlisted (r.image r.1) (r.image r.2.1) (Nat.beq r.2.2.1 2 || Nat.beq r.1 r.2.1) caseRanges

/-- Whether neither the range nor its counterparts touch the numbers from `lo` to `hi`. -/
def avoids (lo hi : Nat) (r : CaseRange) : Bool :=
  (r.2.1 < lo || hi < r.1) && (r.image r.2.1 < lo || hi < r.image r.1)

end CaseRange

open CaseRange

lemma wellFormed_of_mem {r : CaseRange} (h : r ∈ caseRanges) : r.wellFormed = true := by
  have hall : caseRanges.all wellFormed = true := by decide
  exact List.all_eq_true.mp hall r h

lemma settled_of_mem {r : CaseRange} (h : r ∈ caseRanges) : r.settled = true := by
  have hall : caseRanges.all settled = true := by decide +kernel
  exact List.all_eq_true.mp hall r h

lemma lists_eq_false_of_unlisted {first last m : Nat} {alternate : Bool} {table : List CaseRange}
    (h : unlisted first last alternate table = true) (hfirst : first ≤ m) (hlast : m ≤ last)
    (hparity : alternate = true → (m - first) % 2 = 0) {q : CaseRange} (hq : q ∈ table) :
    q.lists m = false := by
  have hh := List.all_eq_true.mp h q hq
  simp only [Bool.or_eq_true, Bool.and_eq_true, Nat.blt_eq, Nat.beq_eq] at hh
  rw [Bool.eq_false_iff]
  intro hm
  simp only [lists, Bool.and_eq_true, decide_eq_true_eq, beq_iff_eq] at hm
  obtain ⟨⟨hlo, hhi⟩, hstep⟩ := hm
  rcases hh with (hbelow | habove) | ⟨⟨halt, htwo⟩, hodd⟩
  · omega
  · omega
  · have hp := hparity halt
    rw [htwo] at hstep
    omega

/-- A counterpart lies between those of the ends of its range, in step with the first. -/
lemma image_bounds {r : CaseRange} (hr : r ∈ caseRanges) {n : Nat} (hn : r.lists n = true) :
    r.image r.1 ≤ r.image n ∧ r.image n ≤ r.image r.2.1 ∧
      ((r.2.2.1 = 2 ∨ r.1 = r.2.1) → (r.image n - r.image r.1) % 2 = 0) := by
  have hw := wellFormed_of_mem hr
  simp only [wellFormed, lists, Bool.and_eq_true, decide_eq_true_eq, beq_iff_eq] at hw hn
  obtain ⟨⟨_, hpos⟩, _⟩ := hw
  obtain ⟨⟨hlo, hhi⟩, hstep⟩ := hn
  simp only [image]
  refine ⟨by omega, by omega, ?_⟩
  rintro (htwo | hone)
  · rw [htwo] at hstep
    omega
  · omega

lemma image_isValidChar {r : CaseRange} (hr : r ∈ caseRanges) {n : Nat} (hn : r.lists n = true) :
    (r.image n).isValidChar := by
  have hw := wellFormed_of_mem hr
  obtain ⟨hlo, hhi, _⟩ := image_bounds hr hn
  simp only [wellFormed, Bool.and_eq_true, Bool.or_eq_true, decide_eq_true_eq] at hw
  unfold Nat.isValidChar
  omega

/-- A counterpart has no counterpart of its own. -/
lemma lists_image_eq_false {r q : CaseRange} (hr : r ∈ caseRanges) {n : Nat}
    (hn : r.lists n = true) (hq : q ∈ caseRanges) : q.lists (r.image n) = false := by
  obtain ⟨hlo, hhi, hparity⟩ := image_bounds hr hn
  refine lists_eq_false_of_unlisted (settled_of_mem hr) hlo hhi ?_ hq
  intro halt
  simp only [Bool.or_eq_true, Nat.beq_eq] at halt
  exact hparity halt

lemma toNat_ofNat {n : Nat} (h : n.isValidChar) : (Char.ofNat n).toNat = n := by
  rw [Char.ofNat, dif_pos h]
  rfl

lemma toNat_toLower (c : Char) :
    c.toLower.toNat = if 65 ≤ c.toNat ∧ c.toNat ≤ 90 then c.toNat + 32 else c.toNat := by
  have hval : (c.val ≥ 'A'.val ∧ c.val ≤ 'Z'.val) ↔ (65 ≤ c.toNat ∧ c.toNat ≤ 90) := by
    simp only [ge_iff_le, UInt32.le_iff_toNat_le, Char.toNat_val]
    rfl
  unfold Char.toLower
  split_ifs with h h' h'
  · have hadd : (c.val + ('a'.val - 'A'.val)).toNat = c.toNat + 32 := by
      rw [UInt32.toNat_add, Char.toNat_val]
      change (c.toNat + 32) % 4294967296 = _
      omega
    exact hadd
  · exact absurd (hval.mp h) h'
  · exact absurd (hval.mpr ‹_›) h
  · rfl

lemma ascii_lt_of_mem {r : CaseRange} (h : r ∈ lowerRanges) : 128 ≤ r.1 := by
  have hall : lowerRanges.all (fun r => decide (128 ≤ r.1)) = true := by decide
  exact of_decide_eq_true (List.all_eq_true.mp hall r h)

lemma lists_eq_false_of_lt {r : CaseRange} {n : Nat} (h : n < r.1 ∨ r.2.1 < n) :
    r.lists n = false := by
  rw [Bool.eq_false_iff]
  intro hn
  simp only [lists, Bool.and_eq_true, decide_eq_true_eq] at hn
  omega

/-- A character is its own counterpart, or has one by some range of the table. -/
lemma lowerChar_cases (c : Char) :
    (lowerChar c = c ∧ ∀ r ∈ caseRanges, r.lists c.toNat = false) ∨
      ∃ r ∈ caseRanges, r.lists c.toNat = true ∧ (lowerChar c).toNat = r.image c.toNat := by
  unfold lowerChar
  split_ifs with hascii
  · by_cases hupper : 65 ≤ c.toNat ∧ c.toNat ≤ 90
    · refine .inr ⟨(65, 90, 1, 32), List.mem_cons_self, ?_, ?_⟩
      · simp [lists, hupper, Nat.mod_one]
      · rw [toNat_toLower, if_pos hupper]
        simp only [image]
        omega
    · refine .inl ⟨?_, ?_⟩
      · apply Char.toNat_inj.mp
        rw [toNat_toLower, if_neg hupper]
      · intro r hr
        rcases List.mem_cons.mp hr with rfl | hr
        · exact lists_eq_false_of_lt (by dsimp only; omega)
        · have := ascii_lt_of_mem hr
          exact lists_eq_false_of_lt (by omega)
  · unfold lowerCodePoint
    cases hfind : lowerRanges.find?
        fun r => r.1 ≤ c.toNat && c.toNat ≤ r.2.1 && (c.toNat - r.1) % r.2.2.1 == 0 with
    | some r =>
      have hr : r ∈ caseRanges := List.mem_cons_of_mem _ (List.mem_of_find?_eq_some hfind)
      have hfound := List.find?_some hfind
      have hn : lists r c.toNat = true := hfound
      exact .inr ⟨r, hr, hn, toNat_ofNat (image_isValidChar hr hn)⟩
    | none =>
      refine .inl ⟨Char.ofNat_toNat c, ?_⟩
      intro r hr
      rcases List.mem_cons.mp hr with rfl | hr
      · exact lists_eq_false_of_lt (by dsimp only; omega)
      · exact Bool.eq_false_iff.mpr (List.find?_eq_none.mp hfind r hr)

/-- A character that the table does not list is its own counterpart. -/
lemma lowerChar_eq_self {c : Char} (h : ∀ r ∈ caseRanges, r.lists c.toNat = false) :
    lowerChar c = c := by
  rcases lowerChar_cases c with ⟨hc, _⟩ | ⟨r, hr, hn, _⟩
  · exact hc
  · rw [h r hr] at hn
    contradiction

@[simp] lemma lowerChar_lowerChar (c : Char) : lowerChar (lowerChar c) = lowerChar c := by
  rcases lowerChar_cases c with ⟨hc, _⟩ | ⟨r, hr, hn, hc⟩
  · rw [hc, hc]
  · apply lowerChar_eq_self
    intro q hq
    rw [hc]
    exact lists_image_eq_false hr hn hq

/-- Numbers that the table avoids are left by no character and reached by no other. -/
lemma between_lowerChar {lo hi : Nat} (h : caseRanges.all (avoids lo hi) = true) (c : Char) :
    (lo ≤ (lowerChar c).toNat ∧ (lowerChar c).toNat ≤ hi) ↔ (lo ≤ c.toNat ∧ c.toNat ≤ hi) := by
  rcases lowerChar_cases c with ⟨hc, _⟩ | ⟨r, hr, hn, hc⟩
  · rw [hc]
  · have ha := List.all_eq_true.mp h r hr
    obtain ⟨hlo, hhi, _⟩ := image_bounds hr hn
    simp only [avoids, Bool.and_eq_true, Bool.or_eq_true, decide_eq_true_eq] at ha
    simp only [lists, Bool.and_eq_true, decide_eq_true_eq] at hn
    rw [hc]
    omega

lemma isBlank_lowerChar (c : Char) : isBlank (lowerChar c) = isBlank c := by
  have hall : blankRanges.all (fun b => caseRanges.all (avoids b.1 b.2)) = true := by
    decide
  rw [Bool.eq_iff_iff]
  simp only [isBlank, inRanges, List.any_eq_true, Bool.and_eq_true, decide_eq_true_eq]
  refine exists_congr fun b => and_congr_right fun hb => ?_
  exact between_lowerChar (List.all_eq_true.mp hall b hb) c

lemma lowerChar_eq_iff {c d : Char} (h : caseRanges.all (avoids d.toNat d.toNat) = true) :
    lowerChar c = d ↔ c = d := by
  have hb := between_lowerChar h c
  rw [← Char.toNat_inj, ← Char.toNat_inj]
  omega

/-- A character that lowering leaves alone wherever it stands. -/
def IsLower (c : Char) : Prop := c ≠ 'Σ' ∧ c ≠ 'İ' ∧ lowerChar c = c

lemma isLower_lowerChar {c : Char} (h : c ≠ 'İ') : IsLower (lowerChar c) := by
  refine ⟨?_, ?_, lowerChar_lowerChar c⟩
  · intro hc
    have hsigma : lowerChar 'Σ' = 'Σ' := by
      rw [← hc]
      exact lowerChar_lowerChar c
    exact absurd hsigma (by decide)
  · rw [Ne, lowerChar_eq_iff (by decide)]
    exact h

lemma isLower_of_mem_lowerAfter {before cs : List Char} {c : Char}
    (h : c ∈ lowerAfter before cs) : IsLower c := by
  induction cs generalizing before with
  | nil => simp [lowerAfter] at h
  | cons d rest ih =>
    simp only [lowerAfter, List.mem_append] at h
    rcases h with h | h
    · split_ifs at h with hsigma hdot
      · have hc : c = 'ς' ∨ c = 'σ' := by
          simp only [lowerSigma, List.mem_singleton] at h
          split_ifs at h <;> simp [h]
        rcases hc with rfl | rfl <;> exact ⟨by decide, by decide, by decide⟩
      · have hc : c = 'i' ∨ c = '\u0307' := by simpa using h
        rcases hc with rfl | rfl <;> exact ⟨by decide, by decide, by decide⟩
      · rw [List.mem_singleton.mp h]
        exact isLower_lowerChar (by simpa using hdot)
    · exact ih h

lemma isLower_of_mem_lowerChars {cs : List Char} {c : Char} (h : c ∈ lowerChars cs) :
    IsLower c := isLower_of_mem_lowerAfter h

lemma lowerAfter_eq_self {before cs : List Char} (h : ∀ c ∈ cs, IsLower c) :
    lowerAfter before cs = cs := by
  induction cs generalizing before with
  | nil => rfl
  | cons c rest ih =>
    obtain ⟨hsigma, hdot, hc⟩ := h c List.mem_cons_self
    have hrest := @ih (c :: before) fun d hd => h d (List.mem_cons_of_mem _ hd)
    simp [lowerAfter, hsigma, hdot, hc, hrest]

/-- Text in lower case stays as it is. -/
lemma lowerChars_eq_self {cs : List Char} (h : ∀ c ∈ cs, IsLower c) : lowerChars cs = cs :=
  lowerAfter_eq_self h

/-- A class of characters that counterparts respect holds of a lowered text exactly when it holds
of the text. The characters of the two rules for words are all in it or all outside. -/
lemma all_lowerChars {p : Char → Bool} (hp : ∀ c, p (lowerChar c) = p c) (b : Bool)
    (hs : ∀ d ∈ ['Σ', 'σ', 'ς', 'İ', 'i', '\u0307'], p d = b) (cs : List Char) :
    (lowerChars cs).all p = cs.all p := by
  suffices ∀ before, (lowerAfter before cs).all p = cs.all p from this []
  induction cs with
  | nil => intro before; rfl
  | cons c rest ih =>
    intro before
    simp only [lowerAfter, List.all_append, List.all_cons, ih]
    congr 1
    split_ifs with hsigma hdot
    · rw [beq_iff_eq.mp hsigma, hs 'Σ' (by simp)]
      simp only [lowerSigma, List.all_cons, List.all_nil, Bool.and_true]
      split_ifs
      · exact hs 'ς' (by simp)
      · exact hs 'σ' (by simp)
    · rw [beq_iff_eq.mp hdot]
      simp [hs 'i' (by simp), hs '\u0307' (by simp), hs 'İ' (by simp)]
    · simp [hp]

end TaggedSuite.Text
