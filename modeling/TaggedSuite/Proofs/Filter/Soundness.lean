import TaggedSuite.Proofs.Tag.Name
import TaggedSuite.Proofs.Filter.Lexing
import TaggedSuite.Proofs.Filter.Meaning
import TaggedSuite.Proofs.Filter.Steps

/-!
# What is read keeps to the grammar

By induction on the fuel, every phrase that a function of the reader finds is a phrase of the
grammar with the meaning that is returned. The statements lead from a text to the rest of it: the
tokens left over are those of a text in which whitespace in front still counts.
-/
namespace TaggedSuite.Filter

/-- Whether each function of the reader, with this much fuel, finds phrases of the grammar only. -/
structure SoundAt (size fuel : Nat) : Prop where
  factor : ∀ {cs ts f us}, Solid cs → Lexed none cs ts → factor size fuel ts = .ok (f, us) →
    ∃ rest, IsFactor cs rest (decide (nextKind ts = some .minus)) f ∧ LexedAfter rest us
  moreFactors : ∀ {cs ts fs us}, LexedAfter cs ts → moreFactors size fuel ts = .ok (fs, us) →
    ∃ rest gs, MoreFactors cs rest gs ∧ fs = gs.map (·.2) ∧ LexedAfter rest us
  term : ∀ {cs ts t us}, Solid cs → Lexed none cs ts → term size fuel ts = .ok (t, us) →
    ∃ rest g, IsTerm cs rest g ∧ t = Factors.toTerm g ∧ LexedAfter rest us
  moreTerms : ∀ {cs ts terms us}, LexedAfter cs ts → moreTerms size fuel ts = .ok (terms, us) →
    ∃ rest gs, MoreTerms cs rest gs ∧ terms = gs.map Factors.toTerm ∧ LexedAfter rest us
  filter : ∀ {before cs ts f us}, bindsRight before = true → Lexed before cs ts →
    filter size fuel ts = .ok (f, us) → ∃ rest, IsFilter cs rest f ∧ LexedAfter rest us

/-- Whitespace at the end of a filter may as well belong to it. -/
lemma IsFilter.absorb {cs ws rest : List Char} {f : Filter} (h : IsFilter cs (ws ++ rest) f)
    (hws : Blank ws) : IsFilter cs rest f := by
  obtain ⟨hblank, hblank', hfirst, hothers, hmeans⟩ := h
  rw [← List.append_assoc] at hothers
  refine .mk hblank ?_ hfirst hothers hmeans
  intro c hc
  rcases List.mem_append.mp hc with hc | hc
  · exact hblank' c hc
  · exact hws c hc

lemma IsTerm.ne_nil {cs rest : List Char} {t : Factors} (h : IsTerm cs rest t) : t ≠ [] := by
  cases h
  exact nofun

lemma MoreTerms.ne_nil {cs rest : List Char} {ts : List Factors} (h : MoreTerms cs rest ts) :
    ∀ t ∈ ts, t ≠ [] := by
  induction ts generalizing cs with
  | nil => simp
  | cons t ts ih =>
    cases h with
    | cons _ hfirst hothers =>
      intro u hu
      rcases List.mem_cons.mp hu with rfl | hu
      · exact hfirst.ne_nil
      · exact ih hothers u hu

lemma IsTerm.all_ne_nil {cs mid rest : List Char} {t : Factors} {ts : List Factors}
    (first : IsTerm cs mid t) (others : MoreTerms mid rest ts) : ∀ u ∈ t :: ts, u ≠ [] :=
  List.forall_mem_cons.mpr ⟨first.ne_nil, others.ne_nil⟩

/-- The terms of a filter mean what the reader makes of them. -/
lemma IsTerm.meaning_eq {cs mid rest : List Char} {t : Factors} {ts : List Factors}
    (first : IsTerm cs mid t) (others : MoreTerms mid rest ts) :
    meaning (t :: ts) = some (combine ((t :: ts).map Factors.toTerm)) :=
  meaning_eq_combine (List.cons_ne_nil t ts) (first.all_ne_nil others)

lemma IsTerm.combine_eq {cs mid rest : List Char} {t : Factors} {ts : List Factors} {f : Filter}
    (first : IsTerm cs mid t) (others : MoreTerms mid rest ts)
    (means : meaning (t :: ts) = some f) : combine ((t :: ts).map Factors.toTerm) = f := by
  rw [first.meaning_eq others] at means
  exact Option.some.inj means

section
variable {size fuel : Nat}

lemma SoundAt.factor_succ (ih : SoundAt size fuel) {cs : List Char} {ts us : List Token}
    {f : Filter} (hcs : Solid cs) (hts : Lexed none cs ts)
    (h : Filter.factor size (fuel + 1) ts = .ok (f, us)) :
    ∃ rest, IsFactor cs rest (decide (nextKind ts = some .minus)) f ∧ LexedAfter rest us := by
  rcases solid_cases hcs with rfl | ⟨c, cs, rfl, hc⟩ | ⟨run, rest, rfl, hne, hrun, hm, hrest⟩
  · rw [lexed_nil] at hts
    subst hts
    rw [Filter.factor] at h
    cases h
  · obtain ⟨t, ts, rfl, hkind, hafter⟩ := lexed_sign hc hts
    simp only [signs, List.mem_cons, List.not_mem_nil, or_false] at hc
    rcases hc with rfl | rfl | rfl | rfl | rfl
    · -- a minus sign: no gap may follow, so the operand begins at once
      obtain ⟨hend, g, hg, rfl⟩ := (factor_minus hkind).mp h
      obtain ⟨hsolid, hlexed⟩ := LexedAfter.solid_of_endsTerm ⟨_, rfl, hafter⟩ hend
      obtain ⟨rest, hfactor, hus⟩ := ih.factor hsolid hlexed hg
      refine ⟨rest, ?_, hus⟩
      rw [decide_eq_true (show nextKind (t :: ts) = some .minus by simp [nextKind, hkind]; rfl)]
      exact .minus hfactor
    · exact absurd h (factor_other (by rw [hkind]; decide) (by rw [hkind]; decide)
        (by rw [hkind]; decide))
    · exact absurd h (factor_other (by rw [hkind]; decide) (by rw [hkind]; decide)
        (by rw [hkind]; decide))
    · obtain ⟨_, u, hu, hinner⟩ := (factor_opening hkind).mp h
      obtain ⟨mid, hfilter, hmid⟩ := ih.filter rfl hafter hinner
      obtain ⟨ws, rest, rfl, hws, hus⟩ := hmid.sign (c := ')') (by simp [signs]) hu
      refine ⟨rest, ?_, _, rfl, hus⟩
      rw [decide_eq_false (by simp [nextKind, hkind]; decide)]
      exact .atom (.group (hfilter.absorb hws))
    · exact absurd h (factor_other (by rw [hkind]; decide) (by rw [hkind]; decide)
        (by rw [hkind]; decide))
  · obtain ⟨t, ts, rfl, hkind, rfl, hafter⟩ := lexed_tag hne hrun hm hrest hts
    obtain ⟨tag, htag, rfl, rfl⟩ := (factor_tag hkind).mp h
    obtain ⟨hnamed, rfl⟩ := (Tag.parse_plain hrun).mp htag
    refine ⟨rest, ?_, _, rfl, hafter⟩
    rw [decide_eq_false (by simp [nextKind, hkind])]
    exact .atom (.tag ⟨hrun, hm, hnamed, hrest⟩)

lemma SoundAt.moreFactors_succ (ih : SoundAt size fuel) {cs : List Char} {ts us : List Token}
    {fs : List Filter} (hts : LexedAfter cs ts)
    (h : Filter.moreFactors size (fuel + 1) ts = .ok (fs, us)) :
    ∃ rest gs, MoreFactors cs rest gs ∧ fs = gs.map (·.2) ∧ LexedAfter rest us := by
  by_cases hplus : nextKind ts = some .plus
  · cases ts with
    | nil => cases hplus
    | cons t ts =>
      have ht : t.kind = .plus := by simpa [nextKind] using hplus
      obtain ⟨_, g, gs, mid, hg, hgs, rfl⟩ := (moreFactors_plus ht).mp h
      obtain ⟨ws, cs, rfl, hws, hafter⟩ := hts.sign (c := '+') (by simp [signs]) ht
      obtain ⟨ws', body, rfl, hws', hbody⟩ := exists_blank_solid cs
      have hlexed := lexed_blank_dropped hws' hbody (.inl rfl) hafter
      obtain ⟨rest, hfactor, hmid⟩ := ih.factor hbody hlexed hg
      obtain ⟨rest', fs, hothers, rfl, hus⟩ := ih.moreFactors hmid hgs
      have hmore := MoreFactors.plus hws hws' hfactor hothers
      rw [List.append_assoc, List.cons_append] at hmore
      exact ⟨rest', _, hmore, rfl, hus⟩
  · obtain ⟨rfl, rfl⟩ := (moreFactors_stop hplus).mp h
    exact ⟨cs, [], .nil, rfl, hts⟩

lemma SoundAt.term_succ (ih : SoundAt size fuel) {cs : List Char} {ts us : List Token}
    {t : Term} (hcs : Solid cs) (hts : Lexed none cs ts)
    (h : Filter.term size (fuel + 1) ts = .ok (t, us)) :
    ∃ rest g, IsTerm cs rest g ∧ t = Factors.toTerm g ∧ LexedAfter rest us := by
  obtain ⟨g, gs, mid, hg, hgs, rfl⟩ := term_eq_ok.mp h
  obtain ⟨rest, hfactor, hmid⟩ := ih.factor hcs hts hg
  obtain ⟨rest', fs, hothers, rfl, hus⟩ := ih.moreFactors hmid hgs
  refine ⟨rest', _, .mk hfactor hothers, ?_, hus⟩
  cases fs <;> simp [Factors.toTerm]

lemma SoundAt.moreTerms_succ (ih : SoundAt size fuel) {cs : List Char} {ts us : List Token}
    {terms : List Term} (hts : LexedAfter cs ts)
    (h : Filter.moreTerms size (fuel + 1) ts = .ok (terms, us)) :
    ∃ rest gs, MoreTerms cs rest gs ∧ terms = gs.map Factors.toTerm ∧ LexedAfter rest us := by
  by_cases hgap : nextKind ts = some .gap
  · cases ts with
    | nil => cases hgap
    | cons t ts =>
      have ht : t.kind = .gap := by simpa [nextKind] using hgap
      obtain ⟨_, g, gs, mid, hg, hgs, rfl⟩ := (moreTerms_separated (.inl ht)).mp h
      obtain ⟨ws, body, rfl, hws, hbody, ⟨_, hlexed⟩ |
        ⟨hne, _, u, us', hu, _, hlexed⟩⟩ := hts.split
      · rw [nextKind_of_lexed hbody hlexed] at hgap
        exact absurd hgap (firstKind_ne_gap hbody)
      · obtain ⟨rfl, rfl⟩ := List.cons.inj hu
        obtain ⟨rest, t, hterm, rfl, hmid⟩ := ih.term hbody hlexed hg
        obtain ⟨rest', ts, hothers, rfl, hus⟩ := ih.moreTerms hmid hgs
        exact ⟨rest', _, .cons (.gap hne hws) hterm hothers, rfl, hus⟩
  by_cases hcomma : nextKind ts = some .comma
  · cases ts with
    | nil => cases hcomma
    | cons t ts =>
      have ht : t.kind = .comma := by simpa [nextKind] using hcomma
      obtain ⟨_, g, gs, mid, hg, hgs, rfl⟩ := (moreTerms_separated (.inr ht)).mp h
      obtain ⟨ws, cs, rfl, hws, hafter⟩ := hts.sign (c := ',') (by simp [signs]) ht
      obtain ⟨ws', body, rfl, hws', hbody⟩ := exists_blank_solid cs
      have hlexed := lexed_blank_dropped hws' hbody (.inl rfl) hafter
      obtain ⟨rest, t, hterm, rfl, hmid⟩ := ih.term hbody hlexed hg
      obtain ⟨rest', ts, hothers, rfl, hus⟩ := ih.moreTerms hmid hgs
      have hmore := MoreTerms.cons (.comma hws hws') hterm hothers
      rw [List.append_assoc, List.cons_append] at hmore
      exact ⟨rest', _, hmore, rfl, hus⟩
  · obtain ⟨rfl, rfl⟩ := (moreTerms_stop hgap hcomma).mp h
    exact ⟨cs, [], .nil, rfl, hts⟩

lemma SoundAt.filter_succ (ih : SoundAt size fuel) {before : Option TokenKind} {cs : List Char}
    {ts us : List Token} {f : Filter} (hbefore : bindsRight before = true)
    (hts : Lexed before cs ts) (h : Filter.filter size (fuel + 1) ts = .ok (f, us)) :
    ∃ rest, IsFilter cs rest f ∧ LexedAfter rest us := by
  obtain ⟨g, gs, mid, hg, hgs, rfl⟩ := filter_eq_ok.mp h
  obtain ⟨ws, body, rfl, hws, hbody⟩ := exists_blank_solid cs
  have hlexed := lexed_blank_dropped hws hbody (.inl hbefore) hts
  obtain ⟨rest, t, hterm, rfl, hmid⟩ := ih.term hbody hlexed hg
  obtain ⟨rest', ts, hothers, rfl, hus⟩ := ih.moreTerms hmid hgs
  exact ⟨rest', .mk hws blank_nil hterm hothers (hterm.meaning_eq hothers), hus⟩

end

theorem soundAt (size fuel : Nat) : SoundAt size fuel := by
  induction fuel with
  | zero =>
    constructor <;> intros <;> rename_i h
    · rw [Filter.factor] at h
      cases h
    · rw [Filter.moreFactors] at h
      cases h
    · rw [Filter.term] at h
      cases h
    · rw [Filter.moreTerms] at h
      cases h
    · rw [Filter.filter] at h
      cases h
  | succ fuel ih =>
    exact ⟨ih.factor_succ, ih.moreFactors_succ, ih.term_succ, ih.moreTerms_succ, ih.filter_succ⟩

/-- A text whose tokens are all read is a filter of the grammar. -/
theorem isFilter_of_ofTokens {cs : List Char} {size : Nat} {f : Filter}
    (h : ofTokens size (tokens cs) = .ok f) : IsFilter cs [] f := by
  have hread := ofTokens_eq_ok.mp h
  obtain ⟨rest, hfilter, hrest⟩ := (soundAt _ _).filter rfl (lexed_tokens cs) hread
  obtain ⟨ws, body, rfl, hws, hbody, ⟨_, hts⟩ | ⟨_, _, t, ts, ht, _⟩⟩ := hrest.split
  · have hbody' : body = [] := by
      rcases solid_cases hbody with rfl | ⟨c, cs, rfl, hc⟩ | ⟨run, cs, rfl, hne, hrun, hm, hcs⟩
      · rfl
      · obtain ⟨t, ts, ht, _⟩ := lexed_sign hc hts
        cases ht
      · obtain ⟨t, ts, ht, _⟩ := lexed_tag hne hrun hm hcs hts
        cases ht
    subst hbody'
    exact hfilter.absorb hws
  · cases ht

end TaggedSuite.Filter
