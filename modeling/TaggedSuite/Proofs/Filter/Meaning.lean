import TaggedSuite.Filter.Parser
import TaggedSuite.Proofs.Filter.Grammar

/-!
# Two ways to join terms

The reader joins the terms of a filter in one pass over a list of terms with flags; the grammar
says what they mean together. Both give the same tree.
-/
namespace TaggedSuite.Filter

lemma isAnd_conj (f g : Filter) (fs : List Filter) : (conj f (g :: fs)).isAnd = true := by
  induction fs generalizing f g with
  | nil => rfl
  | cons k fs ih => exact ih (and f g) k

/-- What the reader makes of the factors of a term. -/
def Factors.toTerm : Factors → Term
  | [] => ⟨.all, false⟩
  | (negated, f) :: fs => ⟨conj f (fs.map (·.2)), negated && fs.isEmpty⟩

lemma Factors.exclusion_toTerm (t : Factors) : (toTerm t).exclusion = isExclusion t := by
  cases t with
  | nil => rfl
  | cons head fs => cases fs <;> simp [toTerm, isExclusion]

lemma termMeaning_of_ne_nil {t : Factors} (h : t ≠ []) :
    termMeaning t = some (Factors.toTerm t).filter := by
  cases t with
  | nil => contradiction
  | cons head fs => rfl

/-- The terms of one kind have the same filters on both sides. -/
lemma filterMap_termMeaning (p : Bool → Bool) {ts : List Factors} (h : ∀ t ∈ ts, t ≠ []) :
    (ts.filter fun t => p (isExclusion t)).filterMap termMeaning =
      ((ts.map Factors.toTerm).filter fun t => p t.exclusion).map (·.filter) := by
  induction ts with
  | nil => rfl
  | cons t ts ih =>
    have hrest := ih (fun u hu => h u (List.mem_cons_of_mem _ hu))
    have ht := termMeaning_of_ne_nil (h t List.mem_cons_self)
    simp only [List.filter_cons, List.map_cons, Factors.exclusion_toTerm]
    split_ifs
    · simp [ht, hrest]
    · exact hrest

/-- Joining the terms as the reader does gives the meaning of the terms. -/
lemma meaning_eq_combine {ts : List Factors} (hne : ts ≠ []) (h : ∀ t ∈ ts, t ≠ []) :
    meaning ts = some (combine (ts.map Factors.toTerm)) := by
  have halternatives := filterMap_termMeaning (fun b => !b) h
  have hexclusions : (ts.filter isExclusion).filterMap termMeaning = _ :=
    filterMap_termMeaning (fun b => b) h
  simp only [meaning, combine]
  rw [halternatives, hexclusions]
  cases hcase : ((ts.map Factors.toTerm).filter fun t => !t.exclusion).map (·.filter) with
  | cons first others => simp [joinLeft, disj, conj]
  | nil =>
    cases hcase' : ((ts.map Factors.toTerm).filter fun t => t.exclusion).map (·.filter) with
    | cons first others => simp [joinLeft, conj]
    | nil =>
      rw [List.map_eq_nil_iff, List.filter_eq_nil_iff] at hcase hcase'
      cases ts with
      | nil => contradiction
      | cons t ts =>
        have hno := hcase _ List.mem_cons_self
        have hyes := hcase' _ List.mem_cons_self
        simp_all

end TaggedSuite.Filter
