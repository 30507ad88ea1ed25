import Mathlib.Tactic.SplitIfs
import TaggedSuite.Number.Numeral

/-!
# Integers that have a text

An integer has a text if it has no more digits than are converted. What a decimal numeral writes has
one, as the digits of a numeral are counted when it is read.
-/
namespace TaggedSuite.Numeral

/-- The least number of which the digits are too many. It is never worked out. -/
@[irreducible] def unwritableBound : Nat := Nat.pow 10 maxDigits

lemma isSome_write?_iff {i : Int} : (write? i).isSome = true ↔ i.natAbs < unwritableBound := by
  have hpos : 0 < maxDigits := by decide
  unfold write? unwritableBound
  -- The exponent stays a variable, so that no power is worked out.
  generalize maxDigits = k at hpos ⊢
  have hlength : (Nat.toDigits 10 i.natAbs).length ≤ k ↔ i.natAbs < Nat.pow 10 k :=
    Nat.length_toDigits_le_iff (by decide) hpos
  rw [← hlength]
  split_ifs with h <;> simp [h]

lemma pow_le_unwritableBound {k : Nat} (h : k ≤ maxDigits) : Nat.pow 10 k ≤ unwritableBound := by
  unfold unwritableBound
  generalize maxDigits = n at h ⊢
  exact Nat.pow_le_pow_right (by decide) h

/-! ### What numerals write -/

lemma digit?_lt {base d : Nat} {c : Char} (h : digit? base c = some d) : d < base := by
  unfold digit? at h
  dsimp only at h
  generalize (if c.isDigit then _ else _ : Nat) = value at h
  split_ifs at h with hlt
  exact Option.some.inj h ▸ hlt

/-- Digits write less than the power of the base that has one digit more. -/
lemma digitsValue_lt {base : Nat} {digits : List Nat} (h : ∀ d ∈ digits, d < base) :
    digitsValue base digits < Nat.pow base digits.length := by
  have hfold : ∀ (n : Nat) (ds : List Nat), (∀ d ∈ ds, d < base) →
      ds.foldl (fun n d => base * n + d) n < (n + 1) * base ^ ds.length := by
    intro n ds hds
    induction ds generalizing n with
    | nil => simp
    | cons d ds ih =>
      obtain ⟨hd, hds⟩ := List.forall_mem_cons.1 hds
      have hstep : base * n + d + 1 ≤ (n + 1) * base := by
        rw [Nat.add_mul, Nat.one_mul, Nat.mul_comm n]
        omega
      calc (d :: ds).foldl (fun n d => base * n + d) n
          < (base * n + d + 1) * base ^ ds.length := ih (base * n + d) hds
        _ ≤ (n + 1) * base * base ^ ds.length := Nat.mul_le_mul_right _ hstep
        _ = (n + 1) * base ^ (d :: ds).length := by
          rw [List.length_cons, Nat.pow_succ', Nat.mul_assoc]
  have hall := hfold 0 digits h
  rwa [Nat.zero_add, Nat.one_mul] at hall

/-- What a decimal numeral writes has a text. -/
lemma isSome_write?_of_integer {cs : List Char} {i : Int} (h : integer 10 cs = .ok i) :
    (write? i).isSome = true := by
  rw [isSome_write?_iff]
  unfold integer at h
  dsimp only at h
  generalize hdigits : List.takeWhile Option.isSome _ = digits at h
  split at h
  · cases h
  next hmany =>
  split at h
  · cases h
  have hlength : (digits.filterMap id).length ≤ maxDigits := by
    have hfew : digits.length ≤ maxDigits := Nat.le_of_not_lt fun hless => hmany ⟨rfl, hless⟩
    exact Nat.le_trans (List.length_filterMap_le id digits) hfew
  have hsmall : ∀ d ∈ digits.filterMap id, d < 10 := by
    intro d hd
    obtain ⟨d?, hmem, hsome⟩ := List.mem_filterMap.1 hd
    rw [← hdigits] at hmem
    obtain ⟨c, -, hc⟩ := List.mem_map.1 ((List.takeWhile_sublist _).mem hmem)
    exact digit?_lt (hc.trans hsome)
  have hvalue : digitsValue 10 (digits.filterMap id) < unwritableBound :=
    Nat.lt_of_lt_of_le (digitsValue_lt hsmall) (pow_le_unwritableBound hlength)
  obtain rfl := Except.ok.inj h
  split_ifs <;> omega

end TaggedSuite.Numeral
