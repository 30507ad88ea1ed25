import Mathlib.Tactic.Common
import TaggedSuite.Filter.Parser
import TaggedSuite.Proofs.Except

/-!
# When reading succeeds

One statement for each function of the reader says what has to hold of the tokens for it to give a
certain result. The proofs about reading use these statements and do not open the functions.
-/
namespace TaggedSuite.Filter

variable {size fuel : Nat} {t : Token} {ts rest : List Token} {f : Filter}

lemma factor_minus (ht : t.kind = .minus) :
    factor size (fuel + 1) (t :: ts) = .ok (f, rest) ↔
      endsTerm (nextKind ts) = false ∧
        ∃ g, factor size fuel ts = .ok (g, rest) ∧ f = .not g := by
  rw [factor]
  simp only [ht]
  cases endsTerm (nextKind ts) with
  | true => exact iff_of_false (fun h => nomatch h) (fun h => nomatch h.1)
  | false =>
    simp only [Bool.false_eq_true, if_false, bind_eq_ok, pure, Except.pure, true_and]
    constructor
    · rintro ⟨⟨g, r⟩, hg, h⟩
      cases h
      exact ⟨g, hg, rfl⟩
    · rintro ⟨g, hg, rfl⟩
      exact ⟨(g, rest), hg, rfl⟩

lemma factor_opening (ht : t.kind = .opening) :
    factor size (fuel + 1) (t :: ts) = .ok (f, rest) ↔
      nextKind ts ≠ some .closing ∧
        ∃ u, u.kind = .closing ∧ filter size fuel ts = .ok (f, u :: rest) := by
  rw [factor]
  simp only [ht]
  by_cases hnext : nextKind ts = some .closing
  · rw [if_pos hnext]
    exact iff_of_false (fun h => nomatch h) (fun h => h.1 hnext)
  · rw [if_neg hnext]
    simp only [bind_eq_ok]
    constructor
    · rintro ⟨⟨g, r⟩, hg, h⟩
      dsimp only at h
      split at h
      · next u r' =>
        split_ifs at h with hu
        · cases h
          exact ⟨hnext, u, hu, hg⟩
      · cases h
    · rintro ⟨_, u, hu, hg⟩
      refine ⟨(f, u :: rest), hg, ?_⟩
      dsimp only
      rw [if_pos hu]
      rfl

lemma factor_tag (ht : t.kind = .tag) :
    factor size (fuel + 1) (t :: ts) = .ok (f, rest) ↔
      ∃ tag, Tag.parse (String.ofList t.text) = .ok tag ∧ f = .tag tag ∧ rest = ts := by
  rw [factor]
  simp only [ht]
  cases Tag.parse (String.ofList t.text) with
  | error e => exact iff_of_false (fun h => nomatch h) (fun ⟨_, h, _⟩ => nomatch h)
  | ok tag =>
    constructor
    · intro h
      cases h
      exact ⟨tag, rfl, rfl, rfl⟩
    · rintro ⟨_, h, rfl, rfl⟩
      cases h
      rfl

lemma factor_other (hminus : t.kind ≠ .minus) (hopening : t.kind ≠ .opening)
    (htag : t.kind ≠ .tag) : factor size (fuel + 1) (t :: ts) ≠ .ok (f, rest) := by
  rw [factor]
  cases hkind : t.kind with
  | minus => exact absurd hkind hminus
  | opening => exact absurd hkind hopening
  | tag => exact absurd hkind htag
  | plus | comma | gap | closing => exact nofun

lemma moreFactors_stop {fs : List Filter} (h : nextKind ts ≠ some .plus) :
    moreFactors size (fuel + 1) ts = .ok (fs, rest) ↔ fs = [] ∧ rest = ts := by
  cases ts with
  | nil =>
    rw [moreFactors]
    simp [eq_comm]
  | cons t ts =>
    have ht : t.kind ≠ .plus := by simpa [nextKind] using h
    rw [moreFactors, if_pos ht]
    simp [pure, Except.pure, eq_comm]

lemma moreFactors_plus (ht : t.kind = .plus) {fs : List Filter} :
    moreFactors size (fuel + 1) (t :: ts) = .ok (fs, rest) ↔
      endsTerm (nextKind ts) = false ∧
        ∃ g gs mid, factor size fuel ts = .ok (g, mid) ∧
          moreFactors size fuel mid = .ok (gs, rest) ∧ fs = g :: gs := by
  rw [moreFactors, if_neg (by simpa using ht)]
  cases endsTerm (nextKind ts) with
  | true => exact iff_of_false (fun h => nomatch h) (fun h => nomatch h.1)
  | false =>
    simp only [Bool.false_eq_true, if_false, bind_eq_ok, pure, Except.pure, true_and]
    constructor
    · rintro ⟨⟨g, mid⟩, hg, ⟨gs, r⟩, hgs, h⟩
      cases h
      exact ⟨g, gs, mid, hg, hgs, rfl⟩
    · rintro ⟨g, gs, mid, hg, hgs, rfl⟩
      exact ⟨(g, mid), hg, (gs, rest), hgs, rfl⟩

lemma term_eq_ok {term' : Term} :
    term size (fuel + 1) ts = .ok (term', rest) ↔
      ∃ g gs mid, factor size fuel ts = .ok (g, mid) ∧
        moreFactors size fuel mid = .ok (gs, rest) ∧
        term' = ⟨conj g gs, nextKind ts = some .minus ∧ gs.isEmpty⟩ := by
  rw [term]
  simp only [bind_eq_ok, pure, Except.pure]
  constructor
  · rintro ⟨⟨g, mid⟩, hg, ⟨gs, r⟩, hgs, h⟩
    cases h
    exact ⟨g, gs, mid, hg, hgs, rfl⟩
  · rintro ⟨g, gs, mid, hg, hgs, rfl⟩
    exact ⟨(g, mid), hg, (gs, rest), hgs, rfl⟩

lemma moreTerms_stop {terms : List Term} (hgap : nextKind ts ≠ some .gap)
    (hcomma : nextKind ts ≠ some .comma) :
    moreTerms size (fuel + 1) ts = .ok (terms, rest) ↔ terms = [] ∧ rest = ts := by
  cases ts with
  | nil =>
    rw [moreTerms]
    simp [eq_comm]
  | cons t ts =>
    have hgap' : t.kind ≠ .gap := by simpa [nextKind] using hgap
    have hcomma' : t.kind ≠ .comma := by simpa [nextKind] using hcomma
    rw [moreTerms, if_pos ⟨hgap', hcomma'⟩]
    simp [pure, Except.pure, eq_comm]

lemma moreTerms_separated (ht : t.kind = .gap ∨ t.kind = .comma) {terms : List Term} :
    moreTerms size (fuel + 1) (t :: ts) = .ok (terms, rest) ↔
      (t.kind = .comma → endsList (nextKind ts) = false) ∧
        ∃ g gs mid, term size fuel ts = .ok (g, mid) ∧
          moreTerms size fuel mid = .ok (gs, rest) ∧ terms = g :: gs := by
  rw [moreTerms, if_neg (by rcases ht with ht | ht <;> simp [ht])]
  by_cases hend : t.kind = .comma ∧ endsList (nextKind ts) = true
  · rw [if_pos hend]
    refine iff_of_false (fun h => nomatch h) (fun h => ?_)
    rw [h.1 hend.1] at hend
    exact nomatch hend.2
  · rw [if_neg hend]
    have hlist : t.kind = .comma → endsList (nextKind ts) = false := by
      intro hcomma
      exact Bool.eq_false_iff.mpr fun h => hend ⟨hcomma, h⟩
    simp only [bind_eq_ok, pure, Except.pure]
    constructor
    · rintro ⟨⟨g, mid⟩, hg, ⟨gs, r⟩, hgs, h⟩
      cases h
      exact ⟨hlist, g, gs, mid, hg, hgs, rfl⟩
    · rintro ⟨_, g, gs, mid, hg, hgs, rfl⟩
      exact ⟨(g, mid), hg, (gs, rest), hgs, rfl⟩

lemma filter_eq_ok :
    filter size (fuel + 1) ts = .ok (f, rest) ↔
      ∃ g gs mid, term size fuel ts = .ok (g, mid) ∧
        moreTerms size fuel mid = .ok (gs, rest) ∧ f = combine (g :: gs) := by
  rw [filter]
  simp only [bind_eq_ok, pure, Except.pure]
  constructor
  · rintro ⟨⟨g, mid⟩, hg, ⟨gs, r⟩, hgs, h⟩
    cases h
    exact ⟨g, gs, mid, hg, hgs, rfl⟩
  · rintro ⟨g, gs, mid, hg, hgs, rfl⟩
    exact ⟨(g, mid), hg, (gs, rest), hgs, rfl⟩

lemma ofTokens_eq_ok :
    ofTokens size ts = .ok f ↔ filter size (4 * ts.length + 4) ts = .ok (f, []) := by
  simp only [ofTokens, bind_eq_ok]
  constructor
  · rintro ⟨⟨g, r⟩, hg, h⟩
    dsimp only at h
    split at h
    · cases h
      exact hg
    · split_ifs at h
  · intro h
    exact ⟨(f, []), h, rfl⟩
end TaggedSuite.Filter
