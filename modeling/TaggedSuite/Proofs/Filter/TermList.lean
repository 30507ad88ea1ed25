import TaggedSuite.Proofs.Filter.Exchange

/-!
# Lists of terms

What a list of terms selects is said by a rule that mentions neither the order of the terms nor the
separators: every exclusion selects the test, and so does another term if there is one. The rule is
stated for the texts of the terms, each read by itself.
-/
namespace TaggedSuite.Filter

/-- The text is one term. -/
def IsTermText (c : List Char) : Prop := ∃ t, IsTerm c [] t

/-- The text is one factor that begins with a minus sign. -/
def IsExclusionText (c : List Char) : Prop := ∃ f, IsFactor c [] true f

/-- The text, read by itself, selects a test with these tags. -/
def Selects (c : List Char) (tags : TagSet) : Prop :=
  ∃ f, parse (String.ofList c) = .ok f ∧ f.eval tags = true

/-- The rule for a list of terms. -/
def Rule (terms : List (List Char)) (tags : TagSet) : Prop :=
  (∀ c ∈ terms, IsExclusionText c → Selects c tags) ∧
    ((∀ c ∈ terms, IsExclusionText c) ∨ ∃ c ∈ terms, ¬ IsExclusionText c ∧ Selects c tags)

/-- The filter selects what the rule for the terms says. -/
def Follows (f : Filter) (terms : List (List Char)) : Prop :=
  ∀ tags, f.eval tags = true ↔ Rule terms tags

/-- The text consists of the terms with separators between them. -/
inductive Joined : List (List Char) → List Char → Prop where
  | one (c : List Char) : Joined [c] c
  | more {c sep text : List Char} {terms : List (List Char)} (separator : IsSeparator sep)
      (others : Joined terms text) : Joined (c :: terms) (c ++ sep ++ text)

/-- The text consists of the terms with separators between them and whitespace around. -/
inductive Lists : List (List Char) → List Char → Prop where
  | mk {ws ws' text : List Char} {terms : List (List Char)} (blank : Blank ws) (blank' : Blank ws')
      (joined : Joined terms text) : Lists terms (ws ++ text ++ ws')

/-- Either text can stand for the other as a whole text and as the text of a group. -/
structure Interchangeable (text text' : List Char) : Prop where
  alone : ∃ f f', parse (String.ofList text) = .ok f ∧ parse (String.ofList text') = .ok f' ∧
    f'.selection = f.selection
  inGroup : ∀ {before after f},
    parse (String.ofList (before ++ '(' :: text ++ ')' :: after)) = .ok f →
      ∃ f', parse (String.ofList (before ++ '(' :: text' ++ ')' :: after)) = .ok f' ∧
        f'.selection = f.selection

/-! ### One term -/

section
variable {c : List Char} {t : Factors} {f : Filter} {tags : TagSet}

/-- The text of a term, read by itself, means the term. -/
lemma IsTerm.isFilter (h : IsTerm c [] t) (means : termMeaning t = some f) : IsFilter c [] f := by
  have hmeaning : meaning [t] = some f := by
    cases hkind : isExclusion t <;> simp [meaning, joinLeft, hkind, means]
  exact .mk blank_nil blank_nil h .nil hmeaning

lemma IsTerm.selects_iff (h : IsTerm c [] t) : Selects c tags ↔ t.holds tags = true := by
  have means := termMeaning_of_ne_nil h.ne_nil
  have hparse := (h.isFilter means).parse_eq
  rw [← eval_termMeaning tags means]
  constructor
  · rintro ⟨f, hf, heval⟩
    rw [hparse] at hf
    cases hf
    exact heval
  · exact fun heval => ⟨_, hparse, heval⟩

lemma IsTerm.isExclusionText_iff (h : IsTerm c [] t) :
    IsExclusionText c ↔ isExclusion t = true := by
  obtain @⟨_, mid, _, negated, f, fs, first, others⟩ := h
  constructor
  · rintro ⟨g, hfactor⟩
    have hsign : negated = true := by
      rw [first.begins.2, ← hfactor.begins.2]
    cases fs with
    | nil => exact hsign
    | cons x fs =>
      -- a conjunction is no negation, so there is no further factor
      have hwhole := (IsTerm.mk first others).isFilter rfl
      have heq : conj f ((x :: fs).map (·.2)) = g :=
        hwhole.unique ((IsTerm.mk hfactor .nil).isFilter rfl)
      have hand := isAnd_conj f x.2 (fs.map (·.2))
      rw [← List.map_cons, heq] at hand
      cases hfactor
      cases hand
  · intro hkind
    cases others with
    | nil =>
      obtain rfl : negated = true := hkind
      exact ⟨f, first⟩
    | plus => cases hkind

/-- The printed text of a filter is one term, unless the filter is a disjunction. -/
lemma IsExpression.isTermText (h : IsExpression f) (hor : f.isOr = false) :
    IsTermText f.chars := by
  obtain ⟨t, hterm, -⟩ := h.prints.term hor (nofun : EndsTag [])
  rw [List.append_nil] at hterm
  exact ⟨t, hterm⟩

end

/-! ### The rule -/

section
variable {terms terms' : List (List Char)} {text text' : List Char} {read : List Char → Factors}
  {tags : TagSet} {f : Filter}

lemma rule_congr (h : ∀ c, c ∈ terms' ↔ c ∈ terms) (tags : TagSet) :
    Rule terms' tags ↔ Rule terms tags := by
  simp only [Rule, h]

/-- The rule for texts is the verdict on the terms that they are. -/
lemma verdict_iff_rule (h : ∀ c ∈ terms, IsTerm c [] (read c)) :
    verdict ((terms.map read).map fun t => (isExclusion t, t.holds tags)) = true ↔
      Rule terms tags := by
  have hkind : ∀ c ∈ terms, (isExclusion (read c) = true ↔ IsExclusionText c) :=
    fun c hc => (h c hc).isExclusionText_iff.symm
  have hholds : ∀ c ∈ terms, ((read c).holds tags = true ↔ Selects c tags) :=
    fun c hc => (h c hc).selects_iff.symm
  rw [verdict_eq_true, List.map_map, List.forall_mem_map, List.forall_mem_map]
  simp only [List.mem_map, exists_exists_and_eq_and, Function.comp_apply, ← Bool.not_eq_true]
  refine and_congr (forall₂_congr fun c hc => ?_) (or_congr (forall₂_congr hkind) ?_)
  · rw [hkind c hc, hholds c hc]
  · refine exists_congr fun c => and_congr_right fun hc => ?_
    rw [hkind c hc, hholds c hc]

/-- Terms with separators between them are a first term and further ones. -/
lemma Joined.isTerm (h : Joined terms text) (hterms : ∀ c ∈ terms, IsTerm c [] (read c))
    {rest : List Char} (hrest : EndsTag rest) : ∃ t ts mid, t :: ts = terms.map read ∧
      IsTerm (text ++ rest) mid t ∧ MoreTerms mid rest ts := by
  induction h with
  | one c => exact ⟨read c, [], rest, rfl, (hterms c List.mem_cons_self).append hrest, .nil⟩
  | @more c sep text terms separator others ih =>
    obtain ⟨hfirst, hothers⟩ := List.forall_mem_cons.mp hterms
    obtain ⟨u, us, mid, heq, hnext, hmore⟩ := ih hothers
    rw [List.append_assoc, List.append_assoc]
    refine ⟨read c, u :: us, _, ?_, hfirst.append (separator.endsTag _),
      .cons separator hnext hmore⟩
    rw [heq, List.map_cons]

/-- A list of terms is a filter that selects what the rule says. -/
lemma Lists.isFilter (h : Lists terms text) (hterms : ∀ c ∈ terms, IsTermText c) :
    ∃ f, IsFilter text [] f ∧ Follows f terms := by
  choose! read hread using hterms
  obtain @⟨ws, ws', text, _, blank, blank', joined⟩ := h
  have hend : EndsTag (ws' ++ []) := blank'.endsTag nofun
  obtain ⟨t, ts, mid, hlist, first, others⟩ := joined.isTerm hread hend
  have hne := first.all_ne_nil others
  have means := first.meaning_eq others
  refine ⟨combine ((t :: ts).map Factors.toTerm), ?_, fun tags => ?_⟩
  · rw [List.append_assoc, ← List.append_nil ws']
    exact .mk blank blank' first others means
  · rw [eval_meaning tags means hne, hlist]
    exact verdict_iff_rule hread

lemma SelectSame.interchangeable (h : SelectSame text text') : Interchangeable text text' where
  alone := by
    obtain ⟨f, f', hf, hf', heq⟩ := h
    exact ⟨f, f', hf.parse_eq, hf'.parse_eq, heq⟩
  inGroup := parse_exchange h

/-- A list of terms is read as a filter that selects what the rule for the terms says. In
parentheses it is one atom with this filter, whatever stands behind. Any other list of the same
terms can stand for it, in another order, with repetitions and with other separators. -/
theorem parse_terms (h : Lists terms text) (hterms : ∀ c ∈ terms, IsTermText c) :
    (∃ f, parse (String.ofList text) = .ok f ∧ Follows f terms ∧ ∀ rest rest' g,
      IsAtom ('(' :: text ++ ')' :: rest) rest' g ↔ rest' = rest ∧ g = f) ∧
    ∀ terms' text', Lists terms' text' → (∀ c, c ∈ terms' ↔ c ∈ terms) →
      Interchangeable text text' := by
  obtain ⟨f, hf, hrule⟩ := h.isFilter hterms
  refine ⟨⟨f, hf.parse_eq, hrule, fun rest rest' g => isAtom_group_iff hf⟩, ?_⟩
  intro terms' text' h' hsame
  obtain ⟨f', hf', hrule'⟩ := h'.isFilter fun c hc => hterms c ((hsame c).mp hc)
  refine SelectSame.interchangeable ⟨f, f', hf, hf', funext fun tags => ?_⟩
  rw [selection, selection, Bool.eq_iff_iff, hrule, hrule', rule_congr hsame]

end

/-- A term, an exclusion, and a conjunction of a negation and a group, in two orders with different
separators, the exclusion twice in the second list. -/
theorem parse_terms_reordered :
    let smoke := "@smoke".toList
    let skip := "-@skip".toList
    let slow := "-@slow+(@api @db)".toList
    let text := "@smoke -@skip,-@slow+(@api @db)"
    let text' := "-@slow+(@api @db) , -@skip\t@smoke  -@skip"
    (∃ f, parse text = .ok f ∧ Follows f [smoke, skip, slow]) ∧
      Interchangeable text.toList text'.toList := by
  have hsame (x y z c : List Char) : c ∈ [z, y, x, y] ↔ c ∈ [x, y, z] := by
    simp only [List.mem_cons, List.not_mem_nil, or_false]
    tauto
  intro smoke skip slow text text'
  have hterms : ∀ c ∈ [smoke, skip, slow], IsTermText c := by
    have htag (name : String) (h : (Tag.mk name).Produced) : IsExpression (tag ⟨name⟩) := .tag h
    have hsmoke := htag "smoke" ⟨"@smoke", by decide⟩
    have hskip := IsExpression.not (htag "skip" ⟨"@skip", by decide⟩)
    have hgroup := (htag "api" ⟨"@api", by decide⟩).or (htag "db" ⟨"@db", by decide⟩)
    have hslow := (IsExpression.not (htag "slow" ⟨"@slow", by decide⟩)).and hgroup
    intro c hc
    simp only [List.mem_cons, List.not_mem_nil, or_false] at hc
    rcases hc with rfl | rfl | rfl
    · exact hsmoke.isTermText rfl
    · exact hskip.isTermText rfl
    · exact hslow.isTermText rfl
  have hblank : IsSeparator [' '] := .gap nofun (by decide)
  have htab : IsSeparator ['\t'] := .gap nofun (by decide)
  have hgap : IsSeparator [' ', ' '] := .gap nofun (by decide)
  have hcomma : IsSeparator [','] := .comma blank_nil blank_nil
  have hspaced : IsSeparator [' ', ',', ' '] := .comma (by decide : Blank [' ']) (by decide)
  have htext : Lists [smoke, skip, slow] text.toList := by
    have heq : text.toList = [] ++ (smoke ++ [' '] ++ (skip ++ [','] ++ slow)) ++ [] := by decide
    rw [heq]
    exact .mk blank_nil blank_nil (.more hblank (.more hcomma (.one slow)))
  have htext' : Lists [slow, skip, smoke, skip] text'.toList := by
    have heq : text'.toList = [] ++ (slow ++ [' ', ',', ' '] ++
        (skip ++ ['\t'] ++ (smoke ++ [' ', ' '] ++ skip))) ++ [] := by decide
    rw [heq]
    exact .mk blank_nil blank_nil (.more hspaced (.more htab (.more hgap (.one skip))))
  obtain ⟨⟨f, hparse, hrule, -⟩, hother⟩ := parse_terms htext hterms
  rw [String.ofList_toList] at hparse
  exact ⟨⟨f, hparse, hrule⟩, hother _ _ htext' (hsame smoke skip slow)⟩

end TaggedSuite.Filter
