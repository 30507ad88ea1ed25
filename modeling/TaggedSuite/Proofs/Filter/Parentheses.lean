import Mathlib.Algebra.BigOperators.Group.List.Basic
import Mathlib.Algebra.Ring.Nat
import TaggedSuite.Proofs.Filter.Printing

/-!
# No parenthesis too many

A text is read as a filter with conditions only if it spends a plus sign or an exclusion on each of
them. A text with as many plus signs as the printed text of its filter has no exclusion left to
spend, so every operand that the printer puts into parentheses needs them in that text too. The
printed text therefore has the fewest parentheses among these texts, and none of its own can be
taken out. The comparison is made along a derivation: each phrase is weighed against the printed
text of what it means.
-/
namespace TaggedSuite.Filter

/-- The plus signs in the printed text. -/
def pluses (f : Filter) : Nat := f.chars.count '+'

/-- The opening parentheses in the printed text. -/
def openings (f : Filter) : Nat := f.chars.count '('

/-- The opening parentheses of the printed text as a condition after a plus sign. -/
def openingsAsCondition (f : Filter) : Nat := f.openings + (f.isOr || f.isAnd).toNat

/-- The opening parentheses of the printed text as an alternative after a blank. -/
def openingsAsAlternative (f : Filter) : Nat := f.openings + (f.isOr || f.isNot).toNat

/-- The opening parentheses that a term needs at least. Alternatives are in parentheses, and so is a
negation that is no exclusion. -/
def Term.openings (t : Term) : Nat :=
  t.filter.openings + (t.filter.isOr || t.filter.isNot && !t.exclusion).toNat

/-- A text between the two places that has at most so many plus signs, and if it has that many, at
least so many opening parentheses. -/
structure Weighs (cs rest : List Char) (pluses openings : Nat) : Prop where
  pluses_le : cs.count '+' ≤ rest.count '+' + pluses
  openings_le : cs.count '+' = rest.count '+' + pluses →
    rest.count '(' + openings ≤ cs.count '('

section
variable {cs mid rest run : List Char} {p p' q q' : Nat}

lemma Weighs.refl (cs : List Char) : Weighs cs cs 0 0 := ⟨le_rfl, fun _ => le_rfl⟩

lemma Weighs.trans (h : Weighs cs mid p q) (h' : Weighs mid rest p' q') :
    Weighs cs rest (p + p') (q + q') := by
  obtain ⟨hplus, hopen⟩ := h
  obtain ⟨hplus', hopen'⟩ := h'
  constructor
  · omega
  · intro heq
    have hfirst := hopen (by omega)
    have hsecond := hopen' (by omega)
    omega

/-- Opening parentheses matter only if there is no plus sign less. -/
lemma Weighs.weaken (h : Weighs cs rest p q) (hp : p ≤ p') (hq : p = p' → q' ≤ q) :
    Weighs cs rest p' q' := by
  obtain ⟨hplus, hopen⟩ := h
  constructor
  · omega
  · intro heq
    have hle := hq (by omega)
    have hcount := hopen (by omega)
    omega

lemma weighs_append (h : '+' ∉ run) (h' : '(' ∉ run) : Weighs (run ++ rest) rest 0 0 := by
  constructor <;> simp [List.count_append, List.count_eq_zero.mpr h, List.count_eq_zero.mpr h']

lemma weighs_blank (h : Blank run) : Weighs (run ++ rest) rest 0 0 :=
  weighs_append (h.not_mem (by decide)) (h.not_mem (by decide))

lemma weighs_plus (rest : List Char) : Weighs ('+' :: rest) rest 1 0 := by
  constructor <;> simp

lemma weighs_opening (rest : List Char) : Weighs ('(' :: rest) rest 0 1 := by
  constructor <;> simp

lemma weighs_other {c : Char} (h : c ≠ '+') (h' : c ≠ '(') (rest : List Char) :
    Weighs (c :: rest) rest 0 0 := by
  constructor <;> simp [List.count_cons_of_ne, h, h']

end

/-! ### What the printer spends -/

section
variable (f g l r : Filter)

lemma count_wrapIf (grouped : Bool) (cs : List Char) :
    (wrapIf grouped cs).count '+' = cs.count '+' ∧
      (wrapIf grouped cs).count '(' = cs.count '(' + grouped.toNat := by
  cases grouped <;> simp [wrapIf, List.count_append]

@[simp] lemma pluses_not : (not f).pluses = f.pluses := by
  simp [pluses, chars, count_wrapIf]

@[simp] lemma openings_not : (not f).openings = f.openings + (f.isAnd || f.isOr).toNat := by
  simp [openings, chars, count_wrapIf]

@[simp] lemma pluses_and : (and l r).pluses = l.pluses + r.pluses + 1 := by
  simp [pluses, chars, count_wrapIf, List.count_append, Nat.add_assoc]

@[simp] lemma openings_and :
    (and l r).openings = l.openings + l.isOr.toNat + r.openingsAsCondition := by
  simp [openings, openingsAsCondition, chars, count_wrapIf, List.count_append]

@[simp] lemma pluses_or : (or l r).pluses = l.pluses + r.pluses := by
  simp [pluses, chars, count_wrapIf, List.count_append]

@[simp] lemma openings_or :
    (or l r).openings = l.openings + l.isNot.toNat + r.openingsAsAlternative := by
  simp [openings, openingsAsAlternative, chars, count_wrapIf, List.count_append]

/-- Each condition that is joined takes a plus sign. -/
lemma pluses_conj (fs : List Filter) :
    (conj f fs).pluses = f.pluses + (fs.map pluses).sum + fs.length := by
  induction fs generalizing f with
  | nil => simp [conj]
  | cons g fs ih =>
    have hfold : (conj f (g :: fs)).pluses = (conj (and f g) fs).pluses := rfl
    rw [hfold, ih, pluses_and, List.map_cons, List.sum_cons, List.length_cons]
    omega

lemma openings_conj_le (fs : List Filter) :
    (conj f fs).openings ≤
      f.openings + f.isOr.toNat + (fs.map openingsAsCondition).sum := by
  induction fs generalizing f with
  | nil => simp [conj]
  | cons g fs ih =>
    have hfold := ih (and f g)
    have hor : (and f g).isOr.toNat = 0 := rfl
    rw [openings_and, hor] at hfold
    rw [List.map_cons, List.sum_cons]
    exact hfold.trans (by omega)

lemma pluses_disj (fs : List Filter) : (disj f fs).pluses = f.pluses + (fs.map pluses).sum := by
  induction fs generalizing f with
  | nil => simp [disj]
  | cons g fs ih =>
    have hfold : (disj f (g :: fs)).pluses = (disj (or f g) fs).pluses := rfl
    rw [hfold, ih, pluses_or, List.map_cons, List.sum_cons]
    omega

lemma openings_disj_le (fs : List Filter) :
    (disj f fs).openings ≤
      f.openings + f.isNot.toNat + (fs.map openingsAsAlternative).sum := by
  induction fs generalizing f with
  | nil => simp [disj]
  | cons g fs ih =>
    have hfold := ih (or f g)
    have hnot : (or f g).isNot.toNat = 0 := rfl
    rw [openings_or, hnot] at hfold
    rw [List.map_cons, List.sum_cons]
    exact hfold.trans (by omega)

end

/-- Terms without an exclusion need what the printer spends on the alternatives. -/
lemma openings_alternatives_le {first : Term} {others : List Term}
    (h : ∀ t ∈ first :: others, t.exclusion = false) :
    (disj first.filter (others.map (·.filter))).openings ≤
      ((first :: others).map Term.openings).sum := by
  have hterm : ∀ t ∈ first :: others, t.openings = t.filter.openingsAsAlternative := by
    intro t ht
    simp [Term.openings, openingsAsAlternative, h t ht]
  have hnot : first.filter.openings + first.filter.isNot.toNat ≤ first.openings := by
    rw [hterm first List.mem_cons_self, openingsAsAlternative]
    cases first.filter.isOr <;> cases first.filter.isNot <;> simp
  have hothers : others.map Term.openings = (others.map (·.filter)).map openingsAsAlternative := by
    rw [List.map_map]
    exact List.map_congr_left fun t ht => hterm t (List.mem_cons_of_mem _ ht)
  rw [List.map_cons, List.sum_cons, hothers]
  exact (openings_disj_le _ _).trans (Nat.add_le_add_right hnot _)

/-- Terms joined to a filter: each exclusion that is joined to something is a condition without a
plus sign of its own. Without such an exclusion the terms need what the printer spends. -/
lemma spends_combine (terms : List Term) (hne : terms ≠ []) :
    (terms.map (·.filter.pluses)).sum ≤ (combine terms).pluses ∧
      ((terms.map (·.filter.pluses)).sum = (combine terms).pluses →
        (combine terms).openings ≤ (terms.map Term.openings).sum) := by
  have hperm := List.filter_append_perm (·.exclusion) terms
  have hsplit (weight : Term → Nat) : (terms.map weight).sum =
      ((terms.filter (·.exclusion)).map weight).sum +
        ((terms.filter (!·.exclusion)).map weight).sum := by
    rw [← List.sum_append, ← List.map_append]
    exact ((hperm.map weight).sum_eq).symm
  have hincluded : ∀ t ∈ terms.filter (!·.exclusion), t.exclusion = false := by
    intro t ht
    simpa using (List.mem_filter.mp ht).2
  simp only [hsplit, combine]
  cases hinclusions : terms.filter (!·.exclusion) with
  | cons first others =>
    simp only [List.map_cons, pluses_conj, pluses_disj, List.map_map, List.sum_cons,
      Function.comp_def, List.length_map]
    refine ⟨by omega, fun heq => ?_⟩
    have hnone : terms.filter (·.exclusion) = [] := List.length_eq_zero_iff.mp (by omega)
    rw [hinclusions] at hincluded
    rw [hnone, List.map_nil, List.map_nil, List.sum_nil, Nat.zero_add, ← List.sum_cons,
      ← List.map_cons]
    exact openings_alternatives_le hincluded
  | nil =>
    cases hexclusions : terms.filter (·.exclusion) with
    | nil =>
      rw [hexclusions, hinclusions] at hperm
      exact absurd hperm.nil_eq.symm hne
    | cons first others =>
      simp only [List.map_cons, pluses_conj, List.map_map, List.sum_cons, Function.comp_def,
        List.length_map, List.map_nil, List.sum_nil, Nat.add_zero]
      refine ⟨by omega, fun heq => ?_⟩
      have hnone : others = [] := List.length_eq_zero_iff.mp (by omega)
      rw [hnone]
      exact Nat.le_add_right _ _

/-! ### What a phrase spends -/

/-- The opening parentheses that a factor needs at least. What stands behind no minus sign is a tag
or in parentheses. -/
def openingsAsFactor (f : Filter) (negated : Bool) : Nat :=
  f.openings + (f.isOr || f.isAnd || f.isNot && !negated).toNat

section
variable {cs mid rest : List Char} {negated : Bool} {f : Filter}

lemma openingsAsCondition_le (f : Filter) (negated : Bool) :
    f.openingsAsCondition ≤ f.openingsAsFactor negated := by
  unfold openingsAsCondition openingsAsFactor
  cases f.isOr <;> cases f.isAnd <;> simp

lemma weighs_tag {run : List Char} (isRun : TagRun run rest) :
    Weighs (run ++ rest) rest (tag ⟨String.ofList (Tag.normalChars run)⟩).pluses
      ((tag ⟨String.ofList (Tag.normalChars run)⟩).openingsAsFactor false) := by
  have hparse := (Tag.parse_plain isRun.allowed).mpr ⟨isRun.named, rfl⟩
  have hname := (Tag.parse_eq_ok_iff.mp hparse).2.1
  rw [String.toList_ofList] at hname
  have habsent : ∀ c, Tag.isForbidden c = true → c ≠ '@' →
      (tag ⟨String.ofList (Tag.normalChars run)⟩).chars.count c = 0 := by
    intro c hc hat
    rw [List.count_eq_zero, chars, String.toList_ofList, List.mem_cons, not_or]
    refine ⟨hat, fun hmem => ?_⟩
    rw [hname c hmem] at hc
    cases hc
  rw [pluses, habsent '+' (by decide) (by decide), openingsAsFactor, openings,
    habsent '(' (by decide) (by decide)]
  exact weighs_append (isRun.not_mem (by decide)) (isRun.not_mem (by decide))

lemma weighs_group (inner : Weighs cs (')' :: rest) f.pluses f.openings) :
    Weighs ('(' :: cs) rest f.pluses (f.openingsAsFactor false) := by
  have hwhole := ((weighs_opening cs).trans inner).trans (weighs_other (by decide) (by decide) rest)
  refine hwhole.weaken (by omega) fun _ => ?_
  have hbound := Bool.toNat_le (f.isOr || f.isAnd || f.isNot && !false)
  rw [openingsAsFactor]
  omega

lemma weighs_minus (operand : Weighs cs rest f.pluses (f.openingsAsFactor negated)) :
    Weighs ('-' :: cs) rest (not f).pluses ((not f).openingsAsFactor true) := by
  have hle : (not f).openingsAsFactor true ≤ f.openingsAsFactor negated := by
    have hwrap : (not f).openingsAsFactor true = f.openingsAsCondition := by
      rw [openingsAsFactor, openings_not, openingsAsCondition, Bool.or_comm]
      rfl
    rw [hwrap]
    exact openingsAsCondition_le f negated
  have hwhole := (weighs_other (c := '-') (by decide) (by decide) cs).trans operand
  rw [pluses_not]
  exact hwhole.weaken (by omega) fun _ => by omega

lemma weighs_furtherFactor {ws ws' : List Char} {fs : Factors} (blank : Blank ws)
    (blank' : Blank ws') (first : Weighs cs mid f.pluses (f.openingsAsFactor negated))
    (others : Weighs mid rest ((fs.map (·.2.pluses)).sum + fs.length)
      (fs.map (·.2.openingsAsCondition)).sum) :
    Weighs (ws ++ '+' :: ws' ++ cs) rest
      ((((negated, f) :: fs).map (·.2.pluses)).sum + ((negated, f) :: fs).length)
      (((negated, f) :: fs).map (·.2.openingsAsCondition)).sum := by
  rw [List.append_assoc, List.cons_append]
  have hsign := ((weighs_blank blank).trans (weighs_plus (ws' ++ cs))).trans (weighs_blank blank')
  have hwhole := (hsign.trans first).trans others
  have hle := openingsAsCondition_le f negated
  simp only [List.map_cons, List.sum_cons, List.length_cons]
  exact hwhole.weaken (by omega) fun _ => by omega

lemma weighs_term {fs : Factors} (first : Weighs cs mid f.pluses (f.openingsAsFactor negated))
    (others : Weighs mid rest ((fs.map (·.2.pluses)).sum + fs.length)
      (fs.map (·.2.openingsAsCondition)).sum) :
    Weighs cs rest (Factors.toTerm ((negated, f) :: fs)).filter.pluses
      (Factors.toTerm ((negated, f) :: fs)).openings := by
  have hwhole := first.trans others
  have hpluses := pluses_conj f (fs.map (·.2))
  have hopenings := openings_conj_le f (fs.map (·.2))
  simp only [List.map_map, Function.comp_def, List.length_map] at hpluses hopenings
  refine hwhole.weaken (by simp only [Factors.toTerm]; omega) fun _ => ?_
  cases fs with
  | nil =>
    simp only [Factors.toTerm, Term.openings, openingsAsFactor, conj, List.map_nil,
      List.foldl_nil, List.isEmpty_nil, Bool.and_true, List.sum_nil, Nat.add_zero]
    cases f.isOr <;> cases f.isAnd <;> simp [Bool.toNat_le]
  | cons g fs =>
    -- several factors are a conjunction, which is in no parentheses as a term
    have hand : (conj f ((g :: fs).map (·.2))).isAnd = true := isAnd_conj f g.2 _
    have hterm : (Factors.toTerm ((negated, f) :: g :: fs)).openings =
        (conj f ((g :: fs).map (·.2))).openings := by
      simp only [Factors.toTerm, Term.openings]
      cases hfold : conj f ((g :: fs).map (·.2)) with
      | and l r => rfl
      | _ =>
        rw [hfold] at hand
        cases hand
    have hfactor : f.openings + f.isOr.toNat ≤ f.openingsAsFactor negated := by
      unfold openingsAsFactor
      cases f.isOr <;> simp
    rw [hterm]
    omega

lemma IsSeparator.weighs {sep : List Char} (h : IsSeparator sep) (cs : List Char) :
    Weighs (sep ++ cs) cs 0 0 := by
  cases h with
  | gap _ blank => exact weighs_blank blank
  | @comma ws ws' blank blank' =>
    rw [List.append_assoc, List.cons_append]
    exact ((weighs_blank blank).trans (weighs_other (by decide) (by decide) (ws' ++ cs))).trans
      (weighs_blank blank')

lemma weighs_furtherTerm {sep : List Char} {t : Factors} {ts : List Factors}
    (separator : IsSeparator sep)
    (first : Weighs cs mid (Factors.toTerm t).filter.pluses (Factors.toTerm t).openings)
    (others : Weighs mid rest ((ts.map Factors.toTerm).map (·.filter.pluses)).sum
      ((ts.map Factors.toTerm).map Term.openings).sum) :
    Weighs (sep ++ cs) rest (((t :: ts).map Factors.toTerm).map (·.filter.pluses)).sum
      (((t :: ts).map Factors.toTerm).map Term.openings).sum := by
  have hwhole := ((separator.weighs cs).trans first).trans others
  simp only [List.map_cons, List.sum_cons]
  exact hwhole.weaken (by omega) fun _ => by omega

lemma weighs_filter {ws ws' : List Char} {t : Factors} {ts : List Factors} (blank : Blank ws)
    (blank' : Blank ws')
    (first : Weighs cs mid (Factors.toTerm t).filter.pluses (Factors.toTerm t).openings)
    (others : Weighs mid (ws' ++ rest) ((ts.map Factors.toTerm).map (·.filter.pluses)).sum
      ((ts.map Factors.toTerm).map Term.openings).sum)
    (means : combine ((t :: ts).map Factors.toTerm) = f) :
    Weighs (ws ++ cs) rest f.pluses f.openings := by
  have hwhole := (((weighs_blank blank).trans first).trans others).trans (weighs_blank blank')
  obtain ⟨hpluses, hopenings⟩ := spends_combine ((t :: ts).map Factors.toTerm) (List.cons_ne_nil _ _)
  rw [means] at hpluses hopenings
  simp only [List.map_cons, List.sum_cons] at hpluses hopenings
  refine hwhole.weaken (by omega) fun heq => ?_
  have hle := hopenings (by omega)
  omega

end

mutual

lemma IsAtom.weighs {cs rest : List Char} {f : Filter} :
    IsAtom cs rest f → Weighs cs rest f.pluses (f.openingsAsFactor false)
  | .tag isRun => weighs_tag isRun
  | .group inner => weighs_group inner.weighs

lemma IsFactor.weighs {cs rest : List Char} {negated : Bool} {f : Filter} :
    IsFactor cs rest negated f → Weighs cs rest f.pluses (f.openingsAsFactor negated)
  | .minus operand => weighs_minus operand.weighs
  | .atom isAtom => isAtom.weighs

lemma MoreFactors.weighs {cs rest : List Char} {fs : Factors} :
    MoreFactors cs rest fs → Weighs cs rest ((fs.map (·.2.pluses)).sum + fs.length)
      (fs.map (·.2.openingsAsCondition)).sum
  | .nil => .refl _
  | .plus blank blank' first others =>
    weighs_furtherFactor blank blank' first.weighs others.weighs

lemma IsTerm.weighs {cs rest : List Char} {t : Factors} :
    IsTerm cs rest t →
      Weighs cs rest (Factors.toTerm t).filter.pluses (Factors.toTerm t).openings
  | .mk first others => weighs_term first.weighs others.weighs

lemma MoreTerms.weighs {cs rest : List Char} {ts : List Factors} :
    MoreTerms cs rest ts → Weighs cs rest ((ts.map Factors.toTerm).map (·.filter.pluses)).sum
      ((ts.map Factors.toTerm).map Term.openings).sum
  | .nil => .refl _
  | .cons separator first others => weighs_furtherTerm separator first.weighs others.weighs

/-- The text of a filter has no more plus signs than the printed one, and if it has as many, no
fewer parentheses. -/
lemma IsFilter.weighs {cs rest : List Char} {f : Filter} :
    IsFilter cs rest f → Weighs cs rest f.pluses f.openings
  | .mk blank blank' first others means =>
    weighs_filter blank blank' first.weighs others.weighs (first.combine_eq others means)

end

/-- Every pair of parentheses in the printed text of a filter is needed: without an opening
parenthesis and a closing one behind it, such as the two of a pair, the text is not read, or it is
read as another filter. -/
theorem parse_without_parentheses (f : Filter) {before inside after : List Char}
    (h : f.text.toList = before ++ '(' :: inside ++ ')' :: after) :
    (∃ fault, parse (String.ofList (before ++ inside ++ after)) = .error fault) ∨
      ∃ g, parse (String.ofList (before ++ inside ++ after)) = .ok g ∧ g ≠ f := by
  cases hparse : parse (String.ofList (before ++ inside ++ after)) with
  | error fault => exact .inl ⟨fault, rfl⟩
  | ok g =>
    refine .inr ⟨g, rfl, ?_⟩
    rintro rfl
    rw [toList_text] at h
    have hderives := parse_eq_ok_iff_derives.mp hparse
    rw [Derives, String.toList_ofList] at hderives
    split_ifs at hderives
    · rw [hderives] at h
      simp [chars] at h
    · have hpluses : (before ++ inside ++ after).count '+' = g.pluses := by
        rw [pluses, h]
        simp [List.count_append]
      have hopenings : g.openings = (before ++ inside ++ after).count '(' + 1 := by
        rw [openings, h]
        simp only [List.count_append, List.count_cons, beq_self_eq_true, if_true]
        have hclosing : (if (')' == '(') = true then 1 else 0) = 0 := rfl
        omega
      have hle := hderives.weighs.openings_le (by simpa using hpluses)
      rw [List.count_nil] at hle
      omega

/-- In a tree with every kind of pair, those around the last exclusion are taken out. -/
theorem parse_without_parentheses_nested :
    let dashed := tag ⟨"-slow"⟩
    let mixed := tag ⟨"db@eu-west"⟩
    let f := or (not (and (or dashed mixed) (and mixed (not (not dashed))))) (or dashed (not mixed))
    let unwrapped := "(-((@-slow @db@eu-west)+(@db@eu-west+--@-slow))) (@-slow -@db@eu-west)"
    f.text = "(-((@-slow @db@eu-west)+(@db@eu-west+--@-slow))) (@-slow (-@db@eu-west))" ∧
      ((∃ fault, parse unwrapped = .error fault) ∨ ∃ g, parse unwrapped = .ok g ∧ g ≠ f) := by
  intro dashed mixed f unwrapped
  let before := "(-((@-slow @db@eu-west)+(@db@eu-west+--@-slow))) (@-slow ".toList
  let inside := "-@db@eu-west".toList
  have hunwrapped : unwrapped = String.ofList (before ++ inside ++ [')']) := by decide
  refine ⟨by decide, ?_⟩
  rw [hunwrapped]
  exact parse_without_parentheses f (by decide)

end TaggedSuite.Filter
