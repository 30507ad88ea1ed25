import TaggedSuite.Proofs.Filter.Places
import TaggedSuite.Proofs.Filter.Selecting

/-!
# Exchanging the text of a group

Only what a group selects matters to the text around it. Two texts are read side by side that differ
in groups that select the same: phrase by phrase they have the same structure and select the same,
although the trees differ where the groups do.
-/
namespace TaggedSuite.Filter

/-- What a filter selects: for each set of tags, whether a test with these tags. -/
def selection (f : Filter) (tags : TagSet) : Bool := f.eval tags

/-- Two texts of filters that select the same. -/
def SelectSame (cs cs' : List Char) : Prop :=
  ∃ f f', IsFilter cs [] f ∧ IsFilter cs' [] f' ∧ f'.selection = f.selection

/-- What a factor selects, with whether it begins with a minus sign. -/
def signedSelection (x : Bool × Filter) : Bool × (TagSet → Bool) := (x.1, x.2.selection)

/-- What the factors of a term select. -/
def Factors.selections (t : Factors) : List (Bool × (TagSet → Bool)) := t.map signedSelection

section
variable {t : Factors} {ts ts' : List Factors}

lemma isExclusion_iff : isExclusion t = true ↔ ∃ selects, t.selections = [(true, selects)] := by
  match t with
  | [] => simp [isExclusion, Factors.selections]
  | [x] => simp [isExclusion, Factors.selections, signedSelection, Prod.ext_iff]
  | _ :: _ :: _ => simp [isExclusion, Factors.selections]

lemma Factors.holds_eq_all (tags : TagSet) :
    t.holds tags = t.selections.all fun x => x.2 tags := by
  rw [selections, List.all_map]
  rfl

/-- What a list of terms selects depends on what their factors select. -/
lemma map_verdict_congr (h : ts.map Factors.selections = ts'.map Factors.selections)
    (tags : TagSet) :
    (ts.map fun t => (isExclusion t, t.holds tags)) =
      ts'.map fun t => (isExclusion t, t.holds tags) := by
  induction ts generalizing ts' with
  | nil =>
    rw [List.map_nil, eq_comm, List.map_eq_nil_iff] at h
    rw [h]
  | cons t ts ih =>
    cases ts' with
    | nil => cases h
    | cons t' ts' =>
      obtain ⟨hhead, htail⟩ := List.cons.inj h
      have hkind : isExclusion t = isExclusion t' := by
        rw [Bool.eq_iff_iff, isExclusion_iff, isExclusion_iff, hhead]
      rw [List.map_cons, List.map_cons, ih htail, hkind, Factors.holds_eq_all,
        Factors.holds_eq_all, hhead]

end

/-- The second text has at some places where the first one has a group with the text `inside` a
group with the text `inside'`, and is the same elsewhere. -/
inductive Exchanged (inside inside' : List Char) : List Char → List Char → Prop where
  | nil : Exchanged inside inside' [] []
  | cons (c : Char) {cs cs' : List Char} (others : Exchanged inside inside' cs cs') :
      Exchanged inside inside' (c :: cs) (c :: cs')
  | group {cs cs' : List Char} (others : Exchanged inside inside' cs cs') :
      Exchanged inside inside' ('(' :: inside ++ ')' :: cs) ('(' :: inside' ++ ')' :: cs')

section
variable {inside inside' cs cs' rest rest' run : List Char}

lemma Exchanged.refl (cs : List Char) : Exchanged inside inside' cs cs := by
  induction cs with
  | nil => exact .nil
  | cons c cs ih => exact .cons c ih

lemma Exchanged.append (h : Exchanged inside inside' cs cs') (run : List Char) :
    Exchanged inside inside' (run ++ cs) (run ++ cs') := by
  induction run with
  | nil => exact h
  | cons c run ih => exact .cons c ih

/-- One group is exchanged between texts that stay. -/
lemma exchanged_between (before inside inside' after : List Char) :
    Exchanged inside inside' (before ++ '(' :: inside ++ ')' :: after)
      (before ++ '(' :: inside' ++ ')' :: after) := by
  simp only [List.append_assoc, List.cons_append]
  exact (Exchanged.group (.refl after)).append before

/-- A sign that opens no group stays. -/
lemma Exchanged.of_cons {c : Char} (hc : c ≠ '(') (h : Exchanged inside inside' (c :: cs) cs') :
    ∃ rest', cs' = c :: rest' ∧ Exchanged inside inside' cs rest' := by
  cases h with
  | cons _ others => exact ⟨_, rfl, others⟩
  | group => contradiction

/-- A text that opens no group stays. -/
lemma Exchanged.of_append (hrun : '(' ∉ run) (h : Exchanged inside inside' (run ++ rest) cs') :
    ∃ rest', cs' = run ++ rest' ∧ Exchanged inside inside' rest rest' := by
  induction run generalizing cs' with
  | nil => exact ⟨cs', rfl, h⟩
  | cons c run ih =>
    rw [List.mem_cons, not_or] at hrun
    obtain ⟨mid, rfl, hmid⟩ := h.of_cons (Ne.symm hrun.1)
    obtain ⟨rest', rfl, hrest'⟩ := ih hrun.2 hmid
    exact ⟨rest', rfl, hrest'⟩

lemma Exchanged.head?_eq (h : Exchanged inside inside' cs cs') : cs'.head? = cs.head? := by
  cases h <;> rfl

end

/-! ### Phrases side by side -/

/-- Exchanging groups in front of `rest` keeps the phrase and what it selects. -/
def Exchanges {α β : Type} (inside inside' : List Char)
    (phrase : List Char → List Char → α → Prop) (selects : α → β) (cs rest : List Char) (a : α) :
    Prop :=
  ∀ cs', Exchanged inside inside' cs cs' → ∃ rest' a',
    phrase cs' rest' a' ∧ Exchanged inside inside' rest rest' ∧ selects a' = selects a

/-- The factor with its sign as one meaning. -/
abbrev IsSignedFactor (cs rest : List Char) (x : Bool × Filter) : Prop := IsFactor cs rest x.1 x.2

section
variable {inside inside' cs mid rest : List Char} {f : Filter} {x : Bool × Filter}

lemma Blank.not_opening {ws : List Char} (h : Blank ws) : '(' ∉ ws := h.not_mem (by decide)

lemma IsSeparator.not_opening {sep : List Char} (h : IsSeparator sep) : '(' ∉ sep := by
  cases h with
  | gap _ blank => exact blank.not_opening
  | comma blank blank' => simp [blank.not_opening, blank'.not_opening]

lemma exchanges_tag {run : List Char} (isRun : TagRun run rest) :
    Exchanges inside inside' IsAtom selection (run ++ rest) rest
      (.tag ⟨String.ofList (Tag.normalChars run)⟩) := by
  intro cs' h
  obtain ⟨rest', rfl, hrest'⟩ := h.of_append (isRun.not_mem (by decide))
  refine ⟨rest', _, .tag ⟨isRun.allowed, isRun.noMinus, isRun.named, ?_⟩, hrest', rfl⟩
  rw [hrest'.head?_eq]
  exact isRun.maximal

lemma exchanges_group (same : SelectSame inside inside') (inner : IsFilter cs (')' :: rest) f)
    (ih : Exchanges inside inside' IsFilter selection cs (')' :: rest) f) :
    Exchanges inside inside' IsAtom selection ('(' :: cs) rest f := by
  intro cs' h
  obtain ⟨g, g', hg, hg', heq⟩ := same
  generalize htext : '(' :: cs = text at h
  cases h with
  | nil => cases htext
  | cons c others =>
    obtain ⟨rfl, rfl⟩ := List.cons.inj htext
    obtain ⟨mid', f', hinner, hmid, hsame⟩ := ih _ others
    obtain ⟨rest', rfl, hrest'⟩ := hmid.of_cons (by decide)
    exact ⟨rest', f', .group hinner, hrest', hsame⟩
  | group others =>
    obtain ⟨-, rfl⟩ := List.cons.inj htext
    -- the group ends where the exchanged text does, so nothing of it is left to be read
    obtain ⟨rfl, rfl⟩ := hg.of_closed inner
    exact ⟨_, g', (isAtom_group_iff hg').mpr ⟨rfl, rfl⟩, others, heq⟩

lemma exchanges_minus
    (operand : Exchanges inside inside' IsSignedFactor signedSelection cs rest x) :
    Exchanges inside inside' IsSignedFactor signedSelection ('-' :: cs) rest (true, .not x.2) := by
  intro cs' h
  obtain ⟨cs', rfl, hcs'⟩ := h.of_cons (by decide)
  obtain ⟨rest', x', hfactor, hrest', hsame⟩ := operand cs' hcs'
  have hselects : x'.2.selection = x.2.selection := congrArg Prod.snd hsame
  refine ⟨rest', (true, .not x'.2), .minus hfactor, hrest', ?_⟩
  exact congrArg (Prod.mk true) (funext fun tags => congrArg (!·) (congrFun hselects tags))

lemma exchanges_atom (isAtom : Exchanges inside inside' IsAtom selection cs rest f) :
    Exchanges inside inside' IsSignedFactor signedSelection cs rest (false, f) := by
  intro cs' h
  obtain ⟨rest', f', hatom, hrest', hsame⟩ := isAtom cs' h
  exact ⟨rest', (false, f'), .atom hatom, hrest', congrArg (Prod.mk false) hsame⟩

lemma exchanges_furtherFactor {ws ws' : List Char} {fs : Factors} (blank : Blank ws)
    (blank' : Blank ws') (first : Exchanges inside inside' IsSignedFactor signedSelection cs mid x)
    (others : Exchanges inside inside' MoreFactors Factors.selections mid rest fs) :
    Exchanges inside inside' MoreFactors Factors.selections (ws ++ '+' :: ws' ++ cs) rest
      (x :: fs) := by
  intro cs' h
  obtain ⟨cs', rfl, hcs'⟩ := h.of_append (by simp [blank.not_opening, blank'.not_opening])
  obtain ⟨mid', x', hfactor, hmid, hfirst⟩ := first cs' hcs'
  obtain ⟨rest', fs', hmore, hrest', hothers⟩ := others mid' hmid
  exact ⟨rest', x' :: fs', .plus blank blank' hfactor hmore, hrest',
    congrArg₂ List.cons hfirst hothers⟩

lemma exchanges_term {fs : Factors}
    (first : Exchanges inside inside' IsSignedFactor signedSelection cs mid x)
    (others : Exchanges inside inside' MoreFactors Factors.selections mid rest fs) :
    Exchanges inside inside' IsTerm Factors.selections cs rest (x :: fs) := by
  intro cs' h
  obtain ⟨mid', x', hfactor, hmid, hfirst⟩ := first cs' h
  obtain ⟨rest', fs', hmore, hrest', hothers⟩ := others mid' hmid
  exact ⟨rest', x' :: fs', .mk hfactor hmore, hrest', congrArg₂ List.cons hfirst hothers⟩

lemma exchanges_furtherTerm {sep : List Char} {t : Factors} {ts : List Factors}
    (separator : IsSeparator sep)
    (first : Exchanges inside inside' IsTerm Factors.selections cs mid t)
    (others : Exchanges inside inside' MoreTerms (List.map Factors.selections) mid rest ts) :
    Exchanges inside inside' MoreTerms (List.map Factors.selections) (sep ++ cs) rest
      (t :: ts) := by
  intro cs' h
  obtain ⟨cs', rfl, hcs'⟩ := h.of_append separator.not_opening
  obtain ⟨mid', t', hterm, hmid, hfirst⟩ := first cs' hcs'
  obtain ⟨rest', ts', hmore, hrest', hothers⟩ := others mid' hmid
  exact ⟨rest', t' :: ts', .cons separator hterm hmore, hrest', congrArg₂ List.cons hfirst hothers⟩

lemma exchanges_filter {ws ws' : List Char} {t : Factors} {ts : List Factors} (blank : Blank ws)
    (blank' : Blank ws') (isTerm : IsTerm cs mid t) (moreTerms : MoreTerms mid (ws' ++ rest) ts)
    (first : Exchanges inside inside' IsTerm Factors.selections cs mid t)
    (others : Exchanges inside inside' MoreTerms (List.map Factors.selections) mid (ws' ++ rest) ts)
    (means : meaning (t :: ts) = some f) :
    Exchanges inside inside' IsFilter selection (ws ++ cs) rest f := by
  intro cs' h
  obtain ⟨cs', rfl, hcs'⟩ := h.of_append blank.not_opening
  obtain ⟨mid', t', hterm, hmid, hfirst⟩ := first cs' hcs'
  obtain ⟨mid'', ts', hmore, hmid'', hothers⟩ := others mid' hmid
  obtain ⟨rest', rfl, hrest'⟩ := hmid''.of_append blank'.not_opening
  have hne := isTerm.all_ne_nil moreTerms
  have hne' := hterm.all_ne_nil hmore
  have means' := hterm.meaning_eq hmore
  refine ⟨rest', _, .mk blank blank' hterm hmore means', hrest', funext fun tags => ?_⟩
  have hsame : (t' :: ts').map Factors.selections = (t :: ts).map Factors.selections :=
    congrArg₂ List.cons hfirst hothers
  rw [selection, eval_meaning tags means' hne', map_verdict_congr hsame, selection,
    eval_meaning tags means hne]

end

section
variable {inside inside' : List Char}

mutual

lemma IsAtom.exchanges (same : SelectSame inside inside') {cs rest : List Char} {f : Filter} :
    IsAtom cs rest f → Exchanges inside inside' IsAtom selection cs rest f
  | .tag isRun => exchanges_tag isRun
  | .group inner => exchanges_group same inner (inner.exchanges same)

lemma IsFactor.exchanges (same : SelectSame inside inside') {cs rest : List Char}
    {negated : Bool} {f : Filter} : IsFactor cs rest negated f →
      Exchanges inside inside' IsSignedFactor signedSelection cs rest (negated, f)
  | .minus operand => exchanges_minus (operand.exchanges same)
  | .atom isAtom => exchanges_atom (isAtom.exchanges same)

lemma MoreFactors.exchanges (same : SelectSame inside inside') {cs rest : List Char}
    {fs : Factors} :
    MoreFactors cs rest fs → Exchanges inside inside' MoreFactors Factors.selections cs rest fs
  | .nil => fun cs' h => ⟨cs', [], .nil, h, rfl⟩
  | .plus blank blank' first others =>
    exchanges_furtherFactor blank blank' (first.exchanges same) (others.exchanges same)

lemma IsTerm.exchanges (same : SelectSame inside inside') {cs rest : List Char} {t : Factors} :
    IsTerm cs rest t → Exchanges inside inside' IsTerm Factors.selections cs rest t
  | .mk first others => exchanges_term (first.exchanges same) (others.exchanges same)

lemma MoreTerms.exchanges (same : SelectSame inside inside') {cs rest : List Char}
    {ts : List Factors} : MoreTerms cs rest ts →
      Exchanges inside inside' MoreTerms (List.map Factors.selections) cs rest ts
  | .nil => fun cs' h => ⟨cs', [], .nil, h, rfl⟩
  | .cons separator first others =>
    exchanges_furtherTerm separator (first.exchanges same) (others.exchanges same)

lemma IsFilter.exchanges (same : SelectSame inside inside') {cs rest : List Char} {f : Filter} :
    IsFilter cs rest f → Exchanges inside inside' IsFilter selection cs rest f
  | .mk blank blank' first others means =>
    exchanges_filter blank blank' first others (first.exchanges same) (others.exchanges same) means

end

/-- A text is read and selects the same after a group in it was exchanged for one that selects the
same. -/
theorem parse_exchange (same : SelectSame inside inside') {before after : List Char} {f : Filter}
    (h : parse (String.ofList (before ++ '(' :: inside ++ ')' :: after)) = .ok f) :
    ∃ f', parse (String.ofList (before ++ '(' :: inside' ++ ')' :: after)) = .ok f' ∧
      f'.selection = f.selection := by
  have hfilter : IsFilter (before ++ '(' :: inside ++ ')' :: after) [] f := by
    refine isFilter_of_parse (fun hblank => ?_) h
    exact hblank.not_opening (by simp)
  obtain ⟨rest', f', hread, hrest', heq⟩ :=
    hfilter.exchanges same _ (exchanged_between before inside inside' after)
  cases hrest'
  exact ⟨f', hread.parse_eq, heq⟩

end

end TaggedSuite.Filter
