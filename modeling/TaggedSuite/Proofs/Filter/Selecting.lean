import TaggedSuite.Filter.Eval
import TaggedSuite.Proofs.Filter.Meaning

/-!
# What a list of terms selects

The tree of a list of terms depends on the order of the terms, but what it selects does not: every
exclusion has to hold, and one of the other terms if there is any. Terms that hold for the same
tests can stand for each other.
-/
namespace TaggedSuite.Filter

/-- Whether all factors of the term select a test with these tags. -/
def Factors.holds (tags : TagSet) (t : Factors) : Bool := t.all fun f => f.2.eval tags

/-- Whether a list of terms selects a test. For each term it is given whether it is an exclusion,
and whether it holds. -/
def verdict (terms : List (Bool × Bool)) : Bool :=
  (terms.all fun t => !t.1 || t.2) && (terms.all (·.1) || terms.any fun t => !t.1 && t.2)

lemma verdict_eq_true {terms : List (Bool × Bool)} :
    verdict terms = true ↔ (∀ t ∈ terms, t.1 = true → t.2 = true) ∧
      ((∀ t ∈ terms, t.1 = true) ∨ ∃ t ∈ terms, t.1 = false ∧ t.2 = true) := by
  have himp (a b : Bool) : (!a || b) = true ↔ (a = true → b = true) := by
    cases a <;> simp
  simp only [verdict, Bool.and_eq_true, Bool.or_eq_true, List.all_eq_true, List.any_eq_true,
    himp, Bool.not_eq_true']

section
variable (tags : TagSet) {fs : List Filter} {f : Filter} {ts : List Factors}

lemma eval_foldl_and (f : Filter) (fs : List Filter) :
    (fs.foldl and f).eval tags = (f.eval tags && fs.all (·.eval tags)) := by
  induction fs generalizing f with
  | nil => simp
  | cons g fs ih => rw [List.foldl_cons, ih, List.all_cons, eval, Bool.and_assoc]

lemma eval_foldl_or (f : Filter) (fs : List Filter) :
    (fs.foldl or f).eval tags = (f.eval tags || fs.any (·.eval tags)) := by
  induction fs generalizing f with
  | nil => simp
  | cons g fs ih => rw [List.foldl_cons, ih, List.any_cons, eval, Bool.or_assoc]

lemma eval_joinLeft_and (h : joinLeft and fs = some f) :
    f.eval tags = fs.all (·.eval tags) := by
  cases fs with
  | nil => cases h
  | cons g fs =>
    cases h
    exact eval_foldl_and tags g fs

lemma eval_joinLeft_or (h : joinLeft or fs = some f) : f.eval tags = fs.any (·.eval tags) := by
  cases fs with
  | nil => cases h
  | cons g fs =>
    cases h
    exact eval_foldl_or tags g fs

/-- A term selects the tests that all its factors select. -/
lemma eval_termMeaning {t : Factors} (h : termMeaning t = some f) :
    f.eval tags = t.holds tags := by
  rw [eval_joinLeft_and tags h, List.all_map]
  rfl

lemma map_eval_terms (h : ∀ t ∈ ts, t ≠ []) :
    (ts.filterMap termMeaning).map (·.eval tags) = ts.map (·.holds tags) := by
  induction ts with
  | nil => rfl
  | cons t ts ih =>
    have ht := termMeaning_of_ne_nil (h t List.mem_cons_self)
    have hrest := ih fun u hu => h u (List.mem_cons_of_mem _ hu)
    rw [List.filterMap_cons_some ht, List.map_cons, List.map_cons, hrest,
      eval_termMeaning tags ht]

/-- The alternatives join to a filter that selects what one of them selects. Without alternatives
nothing is asked for. -/
lemma all_joinLeft_or (fs : List Filter) :
    ((joinLeft or fs).toList.all (·.eval tags)) = (fs.isEmpty || fs.any (·.eval tags)) := by
  cases hjoin : joinLeft or fs with
  | none =>
    cases fs with
    | nil => rfl
    | cons f fs => cases hjoin
  | some f =>
    cases fs with
    | nil => cases hjoin
    | cons g fs => simp [eval_joinLeft_or tags hjoin]

/-- The filter of a list of terms selects a test if every exclusion holds, and one of the other
terms if there is any. -/
theorem eval_meaning (h : meaning ts = some f) (hne : ∀ t ∈ ts, t ≠ []) :
    f.eval tags = verdict (ts.map fun t => (isExclusion t, t.holds tags)) := by
  have hkind (p : Factors → Bool) :
      ((ts.filter p).filterMap termMeaning).map (·.eval tags) = (ts.filter p).map (·.holds tags) :=
    map_eval_terms tags fun t ht => hne t (List.mem_filter.mp ht).1
  have hall (p : Factors → Bool) : ((ts.filter p).filterMap termMeaning).all (·.eval tags) =
      ts.all fun t => !p t || t.holds tags := by
    have h := congrArg (List.all · id) (hkind p)
    simpa [List.all_map, Function.comp_def] using h
  have hany (p : Factors → Bool) : ((ts.filter p).filterMap termMeaning).any (·.eval tags) =
      ts.any fun t => p t && t.holds tags := by
    have h := congrArg (List.any · id) (hkind p)
    simpa [List.any_map, Function.comp_def] using h
  have hempty (p : Factors → Bool) : ((ts.filter p).filterMap termMeaning).isEmpty =
      ts.all fun t => !p t := by
    have h := congrArg List.isEmpty (hkind p)
    rw [List.isEmpty_map, List.isEmpty_map] at h
    rw [h, Bool.eq_iff_iff, List.isEmpty_iff, List.filter_eq_nil_iff]
    simp
  rw [eval_joinLeft_and tags h, List.all_append, all_joinLeft_or, hall, hany, hempty, verdict,
    List.all_map, List.all_map, List.any_map, Bool.and_comm]
  simp [Function.comp_def]

end

end TaggedSuite.Filter
