import TaggedSuite.Filter.Printer
import TaggedSuite.Proofs.Filter.Completeness

/-!
# The text of a filter is read as the filter

The printed text of a filter is derived in the grammar, by induction on the filter and in front of
any text that ends a run of tag characters. What the grammar makes of the text depends on where it
stands: as a factor, as the factors of one term, or as alternatives. The printer puts parentheses
where the text of an operand is not of the kind that its place asks for.
-/
namespace TaggedSuite.Filter

/-- A filter whose leaves are tags of labels. -/
inductive IsExpression : Filter → Prop where
  | tag {t : Tag} (produced : t.Produced) : IsExpression (.tag t)
  | and {l r : Filter} (left : IsExpression l) (right : IsExpression r) : IsExpression (.and l r)
  | or {l r : Filter} (left : IsExpression l) (right : IsExpression r) : IsExpression (.or l r)
  | not {f : Filter} (operand : IsExpression f) : IsExpression (.not f)

/-- A text in front of which a run of tag characters ends. -/
def EndsTag (rest : List Char) : Prop := ∀ c ∈ rest.head?, Tag.isForbidden c = true

lemma endsTag_cons {c : Char} (h : Tag.isForbidden c = true) (rest : List Char) :
    EndsTag (c :: rest) := by
  intro d hd
  obtain rfl : c = d := by simpa using hd
  exact h

lemma tagRun_of_isName {name rest : List Char} (h : Tag.IsName name) (hrest : EndsTag rest) :
    TagRun ('@' :: name) rest := by
  refine ⟨?_, nofun, ?_, hrest⟩
  · intro c hc
    rcases List.mem_cons.mp hc with rfl | hc
    · decide
    · exact h.allowed c hc
  · intro hall
    cases hname : name with
    | nil => exact h.nonempty hname
    | cons c cs =>
      have hc : c = '@' := hall c (by simp [hname])
      exact h.noAt (by rw [hname, hc]; rfl)

lemma IsFactor.of_produced {t : Tag} (h : t.Produced) {rest : List Char} (hrest : EndsTag rest) :
    IsFactor ((tag t).chars ++ rest) rest false (.tag t) := by
  have hatom := IsAtom.tag (tagRun_of_isName h.isName hrest)
  rw [h.isName.normalChars_at, String.ofList_toList] at hatom
  exact .atom hatom

lemma MoreFactors.append {cs mid rest : List Char} {fs gs : Factors}
    (h : MoreFactors cs mid fs) (h' : MoreFactors mid rest gs) :
    MoreFactors cs rest (fs ++ gs) := by
  induction fs generalizing cs with
  | nil =>
    cases h
    exact h'
  | cons f fs ih =>
    cases h with
    | plus blank blank' first others => exact .plus blank blank' first (ih others)

lemma MoreTerms.append {cs mid rest : List Char} {ts us : List Factors}
    (h : MoreTerms cs mid ts) (h' : MoreTerms mid rest us) : MoreTerms cs rest (ts ++ us) := by
  induction ts generalizing cs with
  | nil =>
    cases h
    exact h'
  | cons t ts ih =>
    cases h with
    | cons separator first others => exact .cons separator first (ih others)

lemma joinLeft_append (op : Filter → Filter → Filter) {fs : List Filter} {f : Filter}
    (h : joinLeft op fs = some f) (g : Filter) : joinLeft op (fs ++ [g]) = some (op f g) := by
  cases fs with
  | nil => cases h
  | cons first fs =>
    cases h
    simp [joinLeft]

/-- The text is one term with the filter as its meaning, an exclusion if asked for. -/
def ReadsAsTerm (cs rest : List Char) (excludes : Bool) (f : Filter) : Prop :=
  ∃ t, IsTerm cs rest t ∧ isExclusion t = excludes ∧ termMeaning t = some f

/-- The text is a list of terms, none of them an exclusion, that are the filter's alternatives. -/
def ReadsAsAlternatives (cs rest : List Char) (f : Filter) : Prop :=
  ∃ t ts mid, IsTerm cs mid t ∧ MoreTerms mid rest ts ∧
    (∀ u ∈ t :: ts, isExclusion u = false) ∧ joinLeft or ((t :: ts).filterMap termMeaning) = some f

lemma IsFactor.readsAsTerm {cs rest : List Char} {negated : Bool} {f : Filter}
    (h : IsFactor cs rest negated f) : ReadsAsTerm cs rest negated f :=
  ⟨[(negated, f)], .mk h .nil, rfl, rfl⟩

/-- A further factor makes a condition of the term. -/
lemma ReadsAsTerm.plus {cs cs' rest : List Char} {excludes negated : Bool} {f g : Filter}
    (h : ReadsAsTerm cs ('+' :: cs') excludes f) (h' : IsFactor cs' rest negated g) :
    ReadsAsTerm cs rest false (.and f g) := by
  obtain ⟨t, ⟨first, others⟩, -, hmeans⟩ := h
  refine ⟨_, .mk first (others.append (.plus blank_nil blank_nil h' .nil)), ?_, ?_⟩
  · simp [isExclusion]
  · rw [termMeaning] at hmeans ⊢
    rw [← List.cons_append, List.map_append]
    exact joinLeft_append and hmeans g

lemma ReadsAsTerm.alternatives {cs rest : List Char} {f : Filter}
    (h : ReadsAsTerm cs rest false f) : ReadsAsAlternatives cs rest f := by
  obtain ⟨t, hterm, hno, hmeans⟩ := h
  exact ⟨t, [], rest, hterm, .nil, by simpa using hno, by simp [hmeans, joinLeft]⟩

/-- A further term makes an alternative of the others. -/
lemma ReadsAsAlternatives.gap {cs cs' rest : List Char} {f g : Filter}
    (h : ReadsAsAlternatives cs (' ' :: cs') f) (h' : ReadsAsTerm cs' rest false g) :
    ReadsAsAlternatives cs rest (.or f g) := by
  obtain ⟨t, ts, mid, first, others, hno, hmeans⟩ := h
  obtain ⟨u, hterm, hno', hmeans'⟩ := h'
  have hgap : IsSeparator [' '] := .gap nofun (by decide)
  refine ⟨t, ts ++ [u], mid, first, others.append (.cons hgap hterm .nil), ?_, ?_⟩
  · intro v hv
    rw [← List.cons_append, List.mem_append, List.mem_singleton] at hv
    rcases hv with hv | rfl
    · exact hno v hv
    · exact hno'
  · rw [← List.cons_append, List.filterMap_append]
    simpa [hmeans'] using joinLeft_append or hmeans g

lemma ReadsAsAlternatives.isFilter {cs rest : List Char} {f : Filter}
    (h : ReadsAsAlternatives cs rest f) : IsFilter cs rest f := by
  obtain ⟨t, ts, mid, first, others, hno, hmeans⟩ := h
  refine .mk blank_nil blank_nil first others ?_
  have halternatives : ((t :: ts).filter fun u => !isExclusion u) = t :: ts :=
    List.filter_eq_self.mpr fun u hu => by rw [hno u hu]; rfl
  have hexclusions : (t :: ts).filter isExclusion = [] :=
    List.filter_eq_nil_iff.mpr fun u hu => by rw [hno u hu]; exact Bool.false_ne_true
  rw [meaning, halternatives, hexclusions, hmeans]
  rfl

/-- An exclusion that stands alone is the whole filter. -/
lemma ReadsAsTerm.isFilter {cs rest : List Char} {f : Filter}
    (h : ReadsAsTerm cs rest true f) : IsFilter cs rest f := by
  obtain ⟨t, hterm, hyes, hmeans⟩ := h
  refine .mk blank_nil blank_nil hterm .nil ?_
  simp [meaning, hyes, hmeans, joinLeft]

/-- What the text of a filter is in each of the places where it can stand. -/
structure Prints (f : Filter) : Prop where
  factor : f.isAnd = false → f.isOr = false → ∀ {rest}, EndsTag rest →
    IsFactor (f.chars ++ rest) rest f.isNot f
  term : f.isOr = false → ∀ {rest}, EndsTag rest →
    ReadsAsTerm (f.chars ++ rest) rest f.isNot f
  alternatives : f.isNot = false → ∀ {rest}, EndsTag rest →
    ReadsAsAlternatives (f.chars ++ rest) rest f

lemma Prints.isFilter {f : Filter} (h : Prints f) {rest : List Char} (hrest : EndsTag rest) :
    IsFilter (f.chars ++ rest) rest f := by
  cases hnot : f.isNot with
  | false => exact (h.alternatives hnot hrest).isFilter
  | true =>
    have hor : f.isOr = false := by
      cases f with
      | or => cases hnot
      | _ => rfl
    exact (hnot ▸ h.term hor hrest).isFilter

lemma Prints.group {f : Filter} (h : Prints f) (rest : List Char) :
    IsFactor (wrapIf true f.chars ++ rest) rest false f := by
  have hinner := h.isFilter (endsTag_cons (c := ')') (by decide) rest)
  have hchars : wrapIf true f.chars ++ rest = '(' :: (f.chars ++ ')' :: rest) := by simp [wrapIf]
  rw [hchars]
  exact .atom (.group hinner)

/-- An operand as a factor: conditions and alternatives are in parentheses. -/
lemma Prints.wrapped_factor {f : Filter} (h : Prints f) {rest : List Char} (hrest : EndsTag rest) :
    ∃ negated, IsFactor (wrapIf (f.isAnd || f.isOr) f.chars ++ rest) rest negated f := by
  cases hwrap : f.isAnd || f.isOr with
  | true => exact ⟨false, h.group rest⟩
  | false =>
    obtain ⟨hand, hor⟩ := Bool.or_eq_false_iff.mp hwrap
    exact ⟨f.isNot, h.factor hand hor hrest⟩

/-- The first condition of a term: alternatives are in parentheses. -/
lemma Prints.wrapped_term {f : Filter} (h : Prints f) {rest : List Char} (hrest : EndsTag rest) :
    ∃ excludes, ReadsAsTerm (wrapIf f.isOr f.chars ++ rest) rest excludes f := by
  cases hwrap : f.isOr with
  | true => exact ⟨false, (h.group rest).readsAsTerm⟩
  | false => exact ⟨f.isNot, h.term hwrap hrest⟩

/-- The first alternatives: an exclusion is in parentheses. -/
lemma Prints.wrapped_alternatives {f : Filter} (h : Prints f) {rest : List Char}
    (hrest : EndsTag rest) : ReadsAsAlternatives (wrapIf f.isNot f.chars ++ rest) rest f := by
  cases hwrap : f.isNot with
  | true => exact (h.group rest).readsAsTerm.alternatives
  | false => exact h.alternatives hwrap hrest

/-- The last alternative: an exclusion and alternatives are in parentheses. -/
lemma Prints.wrapped_alternative {f : Filter} (h : Prints f) {rest : List Char}
    (hrest : EndsTag rest) :
    ReadsAsTerm (wrapIf (f.isOr || f.isNot) f.chars ++ rest) rest false f := by
  cases hwrap : f.isOr || f.isNot with
  | true => exact (h.group rest).readsAsTerm
  | false =>
    obtain ⟨hor, hnot⟩ := Bool.or_eq_false_iff.mp hwrap
    have hterm := h.term hor hrest
    rw [hnot] at hterm
    exact hterm

lemma prints_tag {t : Tag} (produced : t.Produced) : Prints (.tag t) where
  factor _ _ _ hrest := .of_produced produced hrest
  term _ _ hrest := (IsFactor.of_produced produced hrest).readsAsTerm
  alternatives _ _ hrest := (IsFactor.of_produced produced hrest).readsAsTerm.alternatives

lemma prints_not {f : Filter} (h : Prints f) : Prints (.not f) := by
  have hfactor : ∀ {rest}, EndsTag rest → IsFactor ((not f).chars ++ rest) rest true (.not f) := by
    intro rest hrest
    obtain ⟨negated, hoperand⟩ := h.wrapped_factor hrest
    exact .minus hoperand
  exact ⟨fun _ _ _ => hfactor, fun _ _ hrest => (hfactor hrest).readsAsTerm, nofun⟩

lemma prints_and {l r : Filter} (hl : Prints l) (hr : Prints r) : Prints (.and l r) := by
  have hterm : ∀ {rest}, EndsTag rest →
      ReadsAsTerm ((and l r).chars ++ rest) rest false (.and l r) := by
    intro rest hrest
    obtain ⟨negated, hright⟩ := hr.wrapped_factor hrest
    obtain ⟨excludes, hleft⟩ := hl.wrapped_term (endsTag_cons (c := '+') (by decide) _)
    rw [chars, List.append_assoc, List.cons_append, Bool.or_comm r.isOr]
    exact hleft.plus hright
  exact ⟨nofun, fun _ _ => hterm, fun _ _ hrest => (hterm hrest).alternatives⟩

lemma prints_or {l r : Filter} (hl : Prints l) (hr : Prints r) : Prints (.or l r) := by
  refine ⟨nofun, nofun, ?_⟩
  intro _ rest hrest
  rw [chars, List.append_assoc, List.cons_append]
  refine (hl.wrapped_alternatives ?_).gap (hr.wrapped_alternative hrest)
  exact endsTag_cons (by decide) _

lemma IsExpression.prints {f : Filter} (h : IsExpression f) : Prints f := by
  induction h with
  | tag produced => exact prints_tag produced
  | and _ _ ihl ihr => exact prints_and ihl ihr
  | or _ _ ihl ihr => exact prints_or ihl ihr
  | not _ ih => exact prints_not ih

lemma IsExpression.isFilter {f : Filter} (h : IsExpression f) : IsFilter f.chars [] f := by
  have hfilter := h.prints.isFilter (nofun : EndsTag [])
  rwa [List.append_nil] at hfilter

/-- Reading the text of a filter gives back the filter. -/
theorem parse_text (f : Filter) (h : IsExpression f ∨ f = .all) : parse f.text = .ok f := by
  rw [parse_eq_ok_iff_derives, Derives, toList_text]
  rcases h with h | rfl
  · rw [if_neg h.isFilter.not_blank]
    exact h.isFilter
  · rw [if_pos]
    exact nofun

/-- A tree in which every kind of operand needs parentheses somewhere, over names with a minus sign
in front and with `@` and minus signs inside. -/
theorem parse_text_nested :
    let dashed := tag ⟨"-slow"⟩
    let mixed := tag ⟨"db@eu-west"⟩
    let f := or (not (and (or dashed mixed) (and mixed (not (not dashed))))) (or dashed (not mixed))
    f.text = "(-((@-slow @db@eu-west)+(@db@eu-west+--@-slow))) (@-slow (-@db@eu-west))" ∧
      parse f.text = .ok f := by
  intro dashed mixed f
  have hdashed : IsExpression dashed := .tag ⟨"@-Slow", by decide⟩
  have hmixed : IsExpression mixed := .tag ⟨" @@DB@EU-west", by decide⟩
  refine ⟨by decide, parse_text f (.inl ?_)⟩
  exact .or (.not (.and (.or hdashed hmixed) (.and hmixed (.not (.not hdashed)))))
    (.or hdashed (.not hmixed))

end TaggedSuite.Filter
