import Mathlib.Algebra.Group.Nat.Defs
import Mathlib.Tactic.SplitIfs
import TaggedSuite.Number.Binary64

/-!
# Integers that are too large for a number

An integer becomes infinite when it is not less than the middle between the greatest finite number
and the next power of two. In the middle itself the mantissa below is odd, so the tie goes up.
-/
namespace TaggedSuite.Binary64

variable {n a b : Nat}

/-- The least integer that is rounded to an infinite number. -/
def overflowBound : Nat := (2 ^ 54 - 1) * 2 ^ 970

/-- The bound lies below the power of two. -/
lemma overflowBound_bounds : 1 < overflowBound ∧ overflowBound ≤ 2 ^ 1024 := by
  unfold overflowBound
  -- The exponent stays a variable, so that no power is worked out.
  obtain ⟨d, hd⟩ : ∃ d, d = 970 := ⟨_, rfl⟩
  have htop : 1024 = d + 54 := by omega
  rw [← hd, htop, Nat.pow_add]
  have hpos := Nat.two_pow_pos d
  omega

/-! ### Rounding -/

/-- A quotient is rounded up from its middle on if it is odd below. -/
lemma roundDiv_eq_succ_iff (hodd : a / b % 2 = 1) :
    roundDiv a b = a / b + 1 ↔ b ≤ 2 * (a % b) := by
  unfold roundDiv
  dsimp only
  split_ifs <;> omega

lemma roundDiv_bounds (a b : Nat) : a / b ≤ roundDiv a b ∧ roundDiv a b ≤ a / b + 1 := by
  unfold roundDiv
  dsimp only
  split_ifs <;> omega

/-- Below `2 ^ 53` units, a number is rounded to that many from the middle of the last unit on. -/
lemma le_roundDiv_iff {half : Nat} (hhalf : 0 < half) (hbelow : n < 2 ^ 53 * (half * 2)) :
    2 ^ 53 ≤ roundDiv n (half * 2) ↔ (2 ^ 54 - 1) * half ≤ n := by
  have hunit : 0 < half * 2 := by omega
  have hdiv := Nat.div_add_mod n (half * 2)
  have hrest := Nat.mod_lt n hunit
  have hlow : n / (half * 2) < 2 ^ 53 := (Nat.div_lt_iff_lt_mul hunit).2 hbelow
  have hround := roundDiv_bounds n (half * 2)
  by_cases hones : n / (half * 2) = 2 ^ 53 - 1
  · have hup := roundDiv_eq_succ_iff (a := n) (b := half * 2) (by omega)
    rw [hones] at hup hdiv hround
    omega
  · have hless : n / (half * 2) ≤ 2 ^ 53 - 2 := by omega
    have hmiss : half * 2 * (n / (half * 2)) ≤ half * 2 * (2 ^ 53 - 2) :=
      Nat.mul_le_mul_left _ hless
    omega

/-! ### Integers as fractions -/

/-- An integer as a fraction that has `k + 1` bits before the point. -/
def aligned (n k : Nat) : Nat × Nat := scaled n 1 (n.log2 - k)

lemma aligned_add {k d : Nat} (hlog : n.log2 = k + d) : aligned n k = (n, 2 ^ d) := by
  have hexponent : (n.log2 : Int) - k = (d : Int) := by omega
  unfold aligned scaled
  rw [hexponent, if_neg (by omega)]
  simp only [Int.toNat_natCast, Nat.pow_eq, Nat.one_mul]

lemma aligned_bounds (hn : n ≠ 0) (k : Nat) :
    2 ^ k ≤ (aligned n k).1 / (aligned n k).2 ∧
      (aligned n k).1 / (aligned n k).2 < 2 ^ (k + 1) := by
  have hlow : 2 ^ n.log2 ≤ n := Nat.log2_self_le hn
  have hhigh : n < 2 ^ (n.log2 + 1) := Nat.lt_log2_self
  by_cases hsmall : n.log2 < k
  · obtain ⟨d, rfl⟩ := Nat.exists_eq_add_of_le (Nat.le_of_lt hsmall)
    have hexponent : (n.log2 : Int) - (n.log2 + d : Nat) = -(d : Int) := by omega
    unfold aligned scaled
    rw [hexponent, if_pos (by omega), Int.neg_neg, Int.toNat_natCast]
    simp only [Nat.pow_eq, Nat.div_one]
    rw [Nat.pow_add, Nat.add_right_comm, Nat.pow_add _ _ d]
    exact ⟨Nat.mul_le_mul_right _ hlow, Nat.mul_lt_mul_of_pos_right hhigh (Nat.two_pow_pos d)⟩
  · obtain ⟨d, hd⟩ := Nat.exists_eq_add_of_le (Nat.le_of_not_lt hsmall)
    rw [aligned_add hd]
    rw [hd, Nat.pow_add] at hlow
    rw [hd, Nat.add_right_comm, Nat.pow_add _ _ d] at hhigh
    exact ⟨(Nat.le_div_iff_mul_le (Nat.two_pow_pos d)).2 hlow,
      (Nat.div_lt_iff_lt_mul (Nat.two_pow_pos d)).2 hhigh⟩

/-- The mantissa of an integer has 53 bits. -/
lemma exponentFor_one (hn : n ≠ 0) : exponentFor n 1 = (n.log2 : Int) - 52 := by
  have hbounds := (aligned_bounds hn 53).1
  have hlog : Nat.log2 1 = 0 := by decide
  have hguess : (n.log2 : Int) - (Nat.log2 1 : Nat) - 53 = (n.log2 : Int) - (53 : Nat) := by omega
  unfold exponentFor
  simp only [hguess]
  rw [if_neg]
  · unfold leastExponent
    omega
  · simpa [aligned] using hbounds

/-- An integer is rounded to the next power of two from the middle between that power and the
integer of 53 ones on. -/
lemma le_roundDiv_aligned_iff {d : Nat} (hlog : n.log2 = d + 53) :
    2 ^ 53 ≤ roundDiv (aligned n 52).1 (aligned n 52).2 ↔ (2 ^ 54 - 1) * 2 ^ d ≤ n := by
  have hlog' : n.log2 = 52 + (d + 1) := by omega
  have hhigh : n < 2 ^ (n.log2 + 1) := Nat.lt_log2_self
  have hunits : 2 ^ (n.log2 + 1) = 2 ^ 53 * (2 ^ d * 2) := by
    rw [hlog, Nat.pow_succ, Nat.pow_add, Nat.mul_comm (2 ^ d), Nat.mul_assoc]
  rw [aligned_add hlog', Nat.pow_succ]
  exact le_roundDiv_iff (Nat.two_pow_pos d) (hunits ▸ hhigh)

/-! ### The bound -/

/-- The integer with its mantissa and its exponent put together. -/
def magnitude (n : Nat) : Nat :=
  (n.log2 + 1022) * 2 ^ 52 + roundDiv (aligned n 52).1 (aligned n 52).2

lemma ofRatio_one (hn : n ≠ 0) (negative : Bool) :
    ofRatio negative n 1 =
      if 2047 * 2 ^ 52 ≤ magnitude n then infinity negative
      else ⟨.ofNat (signBits negative + magnitude n)⟩ := by
  have hexponent : (n.log2 : Int) - 52 - leastExponent = ((n.log2 + 1022 : Nat) : Int) := by
    unfold leastExponent
    omega
  unfold ofRatio
  rw [if_neg hn, exponentFor_one hn]
  simp only [hexponent, Int.toNat_natCast, Nat.pow_eq]
  rfl

/-- The magnitude goes beyond every finite number just from the bound on. -/
lemma le_magnitude_iff (hn : n ≠ 0) : 2047 * 2 ^ 52 ≤ magnitude n ↔ overflowBound ≤ n := by
  have hbounds := aligned_bounds hn 52
  have hround := roundDiv_bounds (aligned n 52).1 (aligned n 52).2
  have hlow : 2 ^ n.log2 ≤ n := Nat.log2_self_le hn
  have hhigh : n < 2 ^ (n.log2 + 1) := Nat.lt_log2_self
  unfold magnitude overflowBound
  obtain ⟨d, hd⟩ : ∃ d, d = 970 := ⟨_, rfl⟩
  rw [← hd]
  rcases Nat.lt_trichotomy n.log2 (d + 53) with hless | hsame | hmore
  · have hpower : 2 ^ (n.log2 + 1) ≤ 2 ^ d * 2 ^ 53 := by
      rw [← Nat.pow_add]
      exact Nat.pow_le_pow_right Nat.two_pos hless
    omega
  · rw [← le_roundDiv_aligned_iff hsame]
    omega
  · have hpower : 2 ^ d * 2 ^ 54 ≤ 2 ^ n.log2 := by
      rw [← Nat.pow_add]
      exact Nat.pow_le_pow_right Nat.two_pos hmore
    omega

lemma classify_infinity (negative : Bool) : (infinity negative).classify = .infinite negative := by
  cases negative <;> decide

lemma signBits_eq (negative : Bool) : signBits negative = 0 ∨ signBits negative = 2 ^ 63 := by
  cases negative
  · exact .inl rfl
  · exact .inr rfl

/-- Bits below those of an infinite number stand for a finite one. -/
lemma classify_ne_infinite {m : Nat} (hm : m < 2047 * 2 ^ 52) (negative sign : Bool) :
    classify ⟨.ofNat (signBits negative + m)⟩ ≠ .infinite sign := by
  have hsign := signBits_eq negative
  have hfield : (signBits negative + m) / 2 ^ 52 % 2 ^ 11 ≠ 2047 := by omega
  have hbits : (UInt64.ofNat (signBits negative + m)).toNat = signBits negative + m := by
    rw [UInt64.toNat_ofNat', Nat.mod_eq_of_lt]
    omega
  unfold classify
  simp only [hbits, Nat.pow_eq, if_neg hfield]
  split <;> exact nofun

/-- An integer becomes infinite just from the bound on, whatever its sign. -/
theorem classify_ofInt_eq_infinite_iff {i : Int} :
    (∃ negative, (ofInt i).classify = .infinite negative) ↔ overflowBound ≤ i.natAbs := by
  unfold ofInt
  by_cases hzero : i.natAbs = 0
  · rw [hzero]
    refine iff_of_false ?_ (Nat.not_le_of_gt (Nat.zero_lt_of_lt overflowBound_bounds.1))
    rintro ⟨sign, hsign⟩
    exact classify_ne_infinite (m := 0) (by decide) _ _ hsign
  · rw [ofRatio_one hzero, ← le_magnitude_iff hzero]
    split_ifs with hmagnitude
    · exact iff_of_true ⟨_, classify_infinity _⟩ hmagnitude
    · refine iff_of_false ?_ hmagnitude
      rintro ⟨sign, hsign⟩
      exact classify_ne_infinite (Nat.lt_of_not_le hmagnitude) _ _ hsign

end TaggedSuite.Binary64
