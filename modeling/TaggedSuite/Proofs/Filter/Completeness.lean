import TaggedSuite.Proofs.Filter.Soundness

/-!
# What keeps to the grammar is read

By induction on a derivation, the reader finds each phrase of the grammar with its meaning, and it
stops where the phrase ends. Factors end by themselves. Behind a term no plus sign may follow, and
behind a list of terms only the end or a closing parenthesis. Four units of fuel for each token
suffice, less a few where a phrase is certain to take a token.
-/
namespace TaggedSuite.Filter

/-- The kind of the first token of a text that is not whitespace. -/
def upcoming (cs : List Char) : Option TokenKind := firstKind (cs.dropWhile Text.isBlank)

lemma upcoming_append {ws body : List Char} (hws : Blank ws) (hbody : Solid body) :
    upcoming (ws ++ body) = firstKind body := by
  rw [upcoming, List.dropWhile_append_of_pos hws]
  cases body with
  | nil => rfl
  | cons c rest => rw [List.dropWhile_cons_of_neg (by simp [hbody c rfl])]

lemma upcoming_sign {ws rest : List Char} (hws : Blank ws) {c : Char} (hc : c ∈ signs) :
    upcoming (ws ++ c :: rest) = some (kindOf c) := upcoming_append hws (solid_sign hc rest)

/-- A text that a factor can begin. -/
def BeginsFactor (cs : List Char) : Prop := Solid cs ∧ endsTerm (firstKind cs) = false

lemma bindsLeft_of_endsTerm {k : Option TokenKind} (h : endsTerm k = false) :
    bindsLeft k = false := by
  rcases k with _ | k
  · cases h
  · cases k <;> first | rfl | cases h

lemma endsList_of_endsTerm {k : Option TokenKind} (h : endsTerm k = false) :
    endsList k = false := by
  rcases k with _ | k
  · cases h
  · cases k <;> first | rfl | cases h

lemma TagRun.ne_nil {run rest : List Char} (h : TagRun run rest) : run ≠ [] := by
  rintro rfl
  exact h.named (fun c hc => nomatch hc)

lemma IsFactor.begins {cs rest : List Char} {negated : Bool} {f : Filter}
    (h : IsFactor cs rest negated f) :
    BeginsFactor cs ∧ negated = decide (firstKind cs = some .minus) := by
  cases h with
  | minus operand => exact ⟨⟨solid_sign (by simp [signs]) _, rfl⟩, rfl⟩
  | atom isAtom =>
    cases isAtom with
    | group inner => exact ⟨⟨solid_sign (by simp [signs]) _, rfl⟩, rfl⟩
    | @tag run _ isRun =>
      cases hrun : run with
      | nil => exact absurd hrun isRun.ne_nil
      | cons c run' =>
        subst hrun
        have hsolid : Solid (c :: run' ++ rest) := by
          intro d hd
          obtain rfl : c = d := by simpa using hd
          exact Tag.isBlank_eq_false (isRun.allowed _ List.mem_cons_self)
        have hkind : firstKind (c :: run' ++ rest) = some .tag := by
          obtain ⟨t, ts, ht, hk, _⟩ := lexed_tag isRun.ne_nil isRun.allowed isRun.noMinus
            isRun.maximal (lexed_tokens (c :: run' ++ rest))
          rw [← nextKind_of_lexed hsolid (lexed_tokens _), ht]
          simp [nextKind, hk]
        exact ⟨⟨hsolid, by rw [hkind]; rfl⟩, by rw [hkind]; rfl⟩

lemma IsTerm.begins {cs rest : List Char} {t : Factors} (h : IsTerm cs rest t) :
    BeginsFactor cs := by
  cases h with
  | mk first others => exact first.begins.1

lemma BeginsFactor.not_blank {ws cs : List Char} (h : BeginsFactor cs) : ¬ Blank (ws ++ cs) := by
  intro hblank
  cases cs with
  | nil => exact nomatch h.2
  | cons c cs =>
    have hc := hblank c (by simp)
    rw [h.1 c rfl] at hc
    cases hc

/-- A filter has a character other than whitespace. -/
lemma IsFilter.not_blank {cs rest : List Char} {f : Filter} (h : IsFilter cs rest f) :
    ¬ Blank cs := by
  obtain ⟨_, _, first, _, _⟩ := h
  exact first.begins.not_blank

/-- A plus sign behind further terms stands behind the last of them. -/
lemma MoreTerms.upcoming_ne_plus {cs rest : List Char} {ts : List Factors}
    (h : MoreTerms cs rest ts) (hrest : upcoming rest ≠ some .plus) :
    upcoming cs ≠ some .plus := by
  cases h with
  | nil => exact hrest
  | cons separator first others =>
    obtain ⟨hsolid, hend⟩ := first.begins
    cases separator with
    | gap _ hws =>
      rw [upcoming_append hws hsolid]
      intro hplus
      rw [hplus] at hend
      cases hend
    | comma hws hws' =>
      rw [List.append_assoc, List.cons_append, upcoming_sign hws (by simp [signs])]
      decide

/-- The tokens behind a factor begin with that of the next sign, or with a gap that counts. -/
lemma LexedAfter.nextKind_cases {cs : List Char} {ts : List Token} (h : LexedAfter cs ts) :
    nextKind ts = upcoming cs ∨ nextKind ts = some .gap ∧ bindsLeft (upcoming cs) = false := by
  obtain ⟨ws, body, rfl, hws, hbody, ⟨_, hts⟩ | ⟨_, hleft, t, ts', rfl, hgap, _⟩⟩ := h.split
  · rw [upcoming_append hws hbody]
    exact .inl (nextKind_of_lexed hbody hts)
  · rw [upcoming_append hws hbody]
    exact .inr ⟨by simp [nextKind, hgap], hleft⟩

/-- A sign behind a factor, with whitespace before it that does not count. -/
lemma LexedAfter.blank_sign {ws rest : List Char} (hws : Blank ws) {c : Char} (hc : c ∈ signs)
    (hleft : bindsLeft (some (kindOf c)) = true) {ts : List Token}
    (h : LexedAfter (ws ++ c :: rest) ts) :
    ∃ t ts', ts = t :: ts' ∧ t.kind = kindOf c ∧ Lexed (some (kindOf c)) rest ts' := by
  obtain ⟨before, _, hts⟩ := h
  exact lexed_sign hc (lexed_blank_dropped hws (solid_sign hc rest) (.inr hleft) hts)

lemma BeginsFactor.nextKind {cs : List Char} (h : BeginsFactor cs) {before : Option TokenKind}
    {ts : List Token} (hts : Lexed before cs ts) : endsTerm (Filter.nextKind ts) = false := by
  rw [nextKind_of_lexed h.1 hts]
  exact h.2

/-- A reader that finds the phrase in front of `rest` on the tokens `ts`: it gives `a`, takes at
least the number of tokens and leaves those of `rest`. It needs four units of fuel for each token
and one more, less `slack`. -/
def Reads {α : Type} (read : Nat → List Token → Except Fault (α × List Token)) (taken slack : Nat)
    (a : α) (rest : List Char) (ts : List Token) : Prop :=
  ∃ us, LexedAfter rest us ∧ us.length + taken ≤ ts.length ∧
    ∀ fuel, 4 * ts.length + 1 ≤ fuel + 4 * us.length + slack → read fuel ts = .ok (a, us)

section
variable (size : Nat)

/-- The reader finds the factor, or the atom, between the two texts. -/
def ReadsFactor (cs rest : List Char) (f : Filter) : Prop :=
  ∀ {before : Option TokenKind} {ts : List Token}, Lexed before cs ts →
    Reads (factor size) 1 4 f rest ts

/-- The reader finds the further factors between the two texts. -/
def ReadsMoreFactors (cs rest : List Char) (fs : Factors) : Prop :=
  upcoming rest ≠ some .plus → ∀ {ts : List Token}, LexedAfter cs ts →
    Reads (moreFactors size) 0 0 (fs.map (·.2)) rest ts

/-- The reader finds the term between the two texts. -/
def ReadsTerm (cs rest : List Char) (t : Factors) : Prop :=
  upcoming rest ≠ some .plus → ∀ {before : Option TokenKind} {ts : List Token},
    Lexed before cs ts → Reads (term size) 1 3 (Factors.toTerm t) rest ts

/-- The reader finds the further terms between the two texts. -/
def ReadsMoreTerms (cs rest : List Char) (ts : List Factors) : Prop :=
  upcoming rest = none ∨ upcoming rest = some .closing → ∀ {us : List Token}, LexedAfter cs us →
    Reads (moreTerms size) 0 0 (ts.map Factors.toTerm) rest us

/-- The reader finds the filter between the two texts, and it begins with a factor. -/
def ReadsFilter (cs rest : List Char) (f : Filter) : Prop :=
  rest = [] ∨ (∃ rest', rest = ')' :: rest') → ∀ {before : Option TokenKind} {ts : List Token},
    bindsRight before = true → Lexed before cs ts →
      Reads (filter size) 1 2 f rest ts ∧ endsTerm (nextKind ts) = false

variable {size}

lemma readsFactor_tag {run rest : List Char} (isRun : TagRun run rest) :
    ReadsFactor size (run ++ rest) rest (.tag ⟨String.ofList (Tag.normalChars run)⟩) := by
  intro before ts hts
  obtain ⟨t, ts, rfl, hkind, rfl, hafter⟩ :=
    lexed_tag isRun.ne_nil isRun.allowed isRun.noMinus isRun.maximal hts
  refine ⟨ts, ⟨_, rfl, hafter⟩, by simp, ?_⟩
  intro fuel hfuel
  simp only [List.length_cons] at hfuel
  cases fuel with
  | zero => omega
  | succ fuel =>
    exact (factor_tag hkind).mpr
      ⟨_, (Tag.parse_plain isRun.allowed).mpr ⟨isRun.named, rfl⟩, rfl, rfl⟩

lemma readsFactor_group {cs rest : List Char} {f : Filter}
    (inner : ReadsFilter size cs (')' :: rest) f) : ReadsFactor size ('(' :: cs) rest f := by
  intro before ts hts
  obtain ⟨t, ts, rfl, hkind, hafter⟩ := lexed_sign (by simp [signs]) hts
  obtain ⟨⟨us, ⟨_, _, hlexed⟩, hlength, hread⟩, hnext⟩ := inner (.inr ⟨_, rfl⟩) rfl hafter
  obtain ⟨u, us, rfl, hu, hrest⟩ := lexed_sign (by simp [signs]) hlexed
  simp only [List.length_cons] at *
  refine ⟨us, ⟨_, rfl, hrest⟩, by simp only [List.length_cons]; omega, ?_⟩
  intro fuel hfuel
  simp only [List.length_cons] at hfuel
  cases fuel with
  | zero => omega
  | succ fuel =>
    refine (factor_opening hkind).mpr ⟨?_, u, hu, hread fuel (by omega)⟩
    intro hclosing
    rw [hclosing] at hnext
    cases hnext

lemma readsFactor_minus {cs rest : List Char} {f : Filter} (begins : BeginsFactor cs)
    (operand : ReadsFactor size cs rest f) : ReadsFactor size ('-' :: cs) rest (.not f) := by
  intro before ts hts
  obtain ⟨t, ts, rfl, hkind, hafter⟩ := lexed_sign (by simp [signs]) hts
  obtain ⟨us, hus, hlength, hread⟩ := operand hafter
  refine ⟨us, hus, by simp only [List.length_cons]; omega, ?_⟩
  intro fuel hfuel
  simp only [List.length_cons] at hfuel
  cases fuel with
  | zero => omega
  | succ fuel =>
    exact (factor_minus hkind).mpr ⟨begins.nextKind hafter, _, hread fuel (by omega), rfl⟩

lemma readsMoreFactors_nil {rest : List Char} : ReadsMoreFactors size rest rest [] := by
  intro hrest ts hts
  refine ⟨ts, hts, le_rfl, ?_⟩
  intro fuel hfuel
  cases fuel with
  | zero => omega
  | succ fuel =>
    refine (moreFactors_stop ?_).mpr ⟨rfl, rfl⟩
    rcases hts.nextKind_cases with hnext | ⟨hnext, _⟩
    · rwa [hnext]
    · rw [hnext]
      exact nofun

lemma readsMoreFactors_plus {ws ws' cs mid rest : List Char} {negated : Bool} {f : Filter}
    {fs : Factors} (blank : Blank ws) (blank' : Blank ws') (begins : BeginsFactor cs)
    (first : ReadsFactor size cs mid f) (others : ReadsMoreFactors size mid rest fs) :
    ReadsMoreFactors size (ws ++ '+' :: ws' ++ cs) rest ((negated, f) :: fs) := by
  intro hrest ts hts
  rw [List.append_assoc, List.cons_append] at hts
  obtain ⟨t, ts, rfl, hkind, hafter⟩ := hts.blank_sign blank (by simp [signs]) rfl
  have hlexed := lexed_blank_dropped blank' begins.1 (.inl rfl) hafter
  obtain ⟨mid, hmid, hlength, hread⟩ := first hlexed
  obtain ⟨us, hus, hlength', hread'⟩ := others hrest hmid
  refine ⟨us, hus, by simp only [List.length_cons]; omega, ?_⟩
  intro fuel hfuel
  simp only [List.length_cons] at hfuel
  cases fuel with
  | zero => omega
  | succ fuel =>
    exact (moreFactors_plus hkind).mpr ⟨begins.nextKind hlexed, _, _, mid,
      hread fuel (by omega), hread' fuel (by omega), rfl⟩

lemma readsTerm_mk {cs mid rest : List Char} {negated : Bool} {f : Filter} {fs : Factors}
    (begins : BeginsFactor cs) (hnegated : negated = decide (firstKind cs = some .minus))
    (first : ReadsFactor size cs mid f) (others : ReadsMoreFactors size mid rest fs) :
    ReadsTerm size cs rest ((negated, f) :: fs) := by
  intro hrest before ts hts
  obtain ⟨mid, hmid, hlength, hread⟩ := first hts
  obtain ⟨us, hus, hlength', hread'⟩ := others hrest hmid
  refine ⟨us, hus, by omega, ?_⟩
  intro fuel hfuel
  cases fuel with
  | zero => omega
  | succ fuel =>
    refine term_eq_ok.mpr ⟨_, _, mid, hread fuel (by omega), hread' fuel (by omega), ?_⟩
    rw [nextKind_of_lexed begins.1 hts, hnegated]
    cases fs <;> simp [Factors.toTerm]

lemma readsMoreTerms_nil {rest : List Char} : ReadsMoreTerms size rest rest [] := by
  intro hrest ts hts
  refine ⟨ts, hts, le_rfl, ?_⟩
  have hnext : nextKind ts = upcoming rest := by
    rcases hts.nextKind_cases with hnext | ⟨_, hleft⟩
    · exact hnext
    · rcases hrest with hrest | hrest <;> rw [hrest] at hleft <;> cases hleft
  intro fuel hfuel
  cases fuel with
  | zero => omega
  | succ fuel =>
    refine (moreTerms_stop ?_ ?_).mpr ⟨rfl, rfl⟩ <;> rw [hnext] <;>
      rcases hrest with hrest | hrest <;> rw [hrest] <;> exact nofun

/-- A separator in front of a factor leaves one token. -/
lemma IsSeparator.lexed {sep cs : List Char} (h : IsSeparator sep) (begins : BeginsFactor cs)
    {ts : List Token} (hts : LexedAfter (sep ++ cs) ts) :
    ∃ t ts', ts = t :: ts' ∧ (t.kind = .gap ∨ t.kind = .comma) ∧ Lexed none cs ts' := by
  cases h with
  | gap hne hws =>
    obtain ⟨before, hbefore, hts⟩ := hts
    obtain ⟨t, ts, rfl, hkind, hlexed⟩ :=
      lexed_gap_kept hne hws begins.1 hbefore (bindsLeft_of_endsTerm begins.2) hts
    exact ⟨t, ts, rfl, .inl hkind, hlexed⟩
  | comma hws hws' =>
    rw [List.append_assoc, List.cons_append] at hts
    obtain ⟨t, ts, rfl, hkind, hafter⟩ := hts.blank_sign hws (by simp [signs]) rfl
    exact ⟨t, ts, rfl, .inr hkind, lexed_blank_dropped hws' begins.1 (.inl rfl) hafter⟩

lemma readsMoreTerms_cons {sep cs mid rest : List Char} {t : Factors} {terms : List Factors}
    (separator : IsSeparator sep) (begins : BeginsFactor cs)
    (hmid : upcoming rest ≠ some .plus → upcoming mid ≠ some .plus)
    (first : ReadsTerm size cs mid t) (others : ReadsMoreTerms size mid rest terms) :
    ReadsMoreTerms size (sep ++ cs) rest (t :: terms) := by
  intro hrest ts hts
  have hplus : upcoming rest ≠ some .plus := by
    rcases hrest with hrest | hrest <;> rw [hrest] <;> exact nofun
  obtain ⟨u, ts, rfl, hkind, hlexed⟩ := separator.lexed begins hts
  obtain ⟨mid, hmid, hlength, hread⟩ := first (hmid hplus) hlexed
  obtain ⟨us, hus, hlength', hread'⟩ := others hrest hmid
  refine ⟨us, hus, by simp only [List.length_cons]; omega, ?_⟩
  intro fuel hfuel
  simp only [List.length_cons] at hfuel
  cases fuel with
  | zero => omega
  | succ fuel =>
    exact (moreTerms_separated hkind).mpr
      ⟨fun _ => endsList_of_endsTerm (begins.nextKind hlexed), _, _, mid,
        hread fuel (by omega), hread' fuel (by omega), rfl⟩

lemma readsFilter_mk {ws ws' cs mid rest : List Char} {t : Factors} {terms : List Factors}
    {f : Filter} (blank : Blank ws) (blank' : Blank ws') (begins : BeginsFactor cs)
    (hmid : upcoming (ws' ++ rest) ≠ some .plus → upcoming mid ≠ some .plus)
    (first : ReadsTerm size cs mid t) (others : ReadsMoreTerms size mid (ws' ++ rest) terms)
    (means : combine ((t :: terms).map Factors.toTerm) = f) :
    ReadsFilter size (ws ++ cs) rest f := by
  intro hrest before ts hbefore hts
  have hsolid : Solid rest ∧ (firstKind rest = none ∨ firstKind rest = some .closing) := by
    rcases hrest with rfl | ⟨rest', rfl⟩
    · exact ⟨nofun, .inl rfl⟩
    · exact ⟨solid_sign (by simp [signs]) _, .inr rfl⟩
  have hend : upcoming (ws' ++ rest) = none ∨ upcoming (ws' ++ rest) = some .closing := by
    rw [upcoming_append blank' hsolid.1]
    exact hsolid.2
  have hplus : upcoming (ws' ++ rest) ≠ some .plus := by
    rcases hend with hend | hend <;> rw [hend] <;> decide
  have hleft : bindsLeft (firstKind rest) = true := by
    rcases hsolid.2 with hkind | hkind <;> rw [hkind] <;> rfl
  have hlexed := lexed_blank_dropped blank begins.1 (.inl hbefore) hts
  obtain ⟨mid, hmid, hlength, hread⟩ := first (hmid hplus) hlexed
  obtain ⟨us, ⟨_, _, hus⟩, hlength', hread'⟩ := others hend hmid
  have hafter := lexed_blank_dropped blank' hsolid.1 (.inr hleft) hus
  refine ⟨⟨us, ⟨some .tag, rfl, lexed_of_solid hsolid.1 hafter⟩, by omega, ?_⟩,
    begins.nextKind hlexed⟩
  intro fuel hfuel
  cases fuel with
  | zero => omega
  | succ fuel =>
    exact filter_eq_ok.mpr
      ⟨_, _, mid, hread fuel (by omega), hread' fuel (by omega), means.symm⟩

variable (size)

/-- The reader finds every filter of the grammar. -/
theorem IsFilter.reads {cs rest : List Char} {f : Filter} (h : IsFilter cs rest f) :
    ReadsFilter size cs rest f := by
  refine @IsFilter.rec (fun cs rest f _ => ReadsFactor size cs rest f)
    (fun cs rest _ f _ => ReadsFactor size cs rest f)
    (fun cs rest fs _ => ReadsMoreFactors size cs rest fs)
    (fun cs rest t _ => ReadsTerm size cs rest t)
    (fun cs rest ts _ => ReadsMoreTerms size cs rest ts)
    (fun cs rest f _ => ReadsFilter size cs rest f)
    ?tag ?group ?minus ?atom ?noFactor ?plus ?term ?noTerm ?separated ?filter cs rest f h
  case tag => exact fun isRun => readsFactor_tag isRun
  case group => exact fun _ ih => readsFactor_group ih
  case minus => exact fun operand ih => readsFactor_minus operand.begins.1 ih
  case atom => exact fun _ ih => ih
  case noFactor => exact readsMoreFactors_nil
  case plus =>
    exact fun blank blank' first _ ih ih' =>
      readsMoreFactors_plus blank blank' first.begins.1 ih ih'
  case term =>
    exact fun first _ ih ih' => readsTerm_mk first.begins.1 first.begins.2 ih ih'
  case noTerm => exact readsMoreTerms_nil
  case separated =>
    exact fun separator first others ih ih' =>
      readsMoreTerms_cons separator first.begins others.upcoming_ne_plus ih ih'
  case filter =>
    exact fun blank blank' first others means ih ih' =>
      readsFilter_mk blank blank' first.begins others.upcoming_ne_plus ih ih'
        (first.combine_eq others means)

end

/-- A text that the grammar derives is read as the filter that it means. -/
theorem ofTokens_of_isFilter {cs : List Char} {f : Filter} (size : Nat)
    (h : IsFilter cs [] f) : ofTokens size (tokens cs) = .ok f := by
  obtain ⟨⟨us, ⟨_, _, hus⟩, _, hread⟩, _⟩ := h.reads size (.inl rfl) rfl (lexed_tokens cs)
  obtain rfl := lexed_nil.mp hus
  exact ofTokens_eq_ok.mpr (hread _ (by simp only [List.length_nil]; omega))

/-- Reading a text gives a filter just when the grammar derives the text with it. -/
theorem parse_eq_ok_iff_derives {raw : String} {f : Filter} :
    parse raw = .ok f ↔ Derives raw f := by
  have hblank : raw.toList.all Text.isBlank = true ↔ Blank raw.toList := by simp [Blank]
  unfold parse Derives
  by_cases h : Blank raw.toList
  · rw [if_pos (hblank.mpr h), if_pos h]
    exact ⟨fun heq => (Except.ok.inj heq).symm, fun heq => heq ▸ rfl⟩
  · rw [if_neg (mt hblank.mp h), if_neg h]
    exact ⟨isFilter_of_ofTokens, ofTokens_of_isFilter _⟩

/-- Reading is exact: it gives every derivable text the one filter that the grammar gives it, and
it reports a fault for every other text. -/
theorem parse_exact (raw : String) :
    (∀ f, parse raw = .ok f ↔ Derives raw f) ∧
      ((∃ fault, parse raw = .error fault) ↔ ¬ ∃ f, Derives raw f) := by
  refine ⟨fun f => parse_eq_ok_iff_derives, ?_⟩
  cases hparse : parse raw with
  | ok f =>
    refine iff_of_false nofun (not_not_intro ⟨f, parse_eq_ok_iff_derives.mp hparse⟩)
  | error fault =>
    refine iff_of_true ⟨fault, rfl⟩ ?_
    rintro ⟨f, hf⟩
    rw [parse_eq_ok_iff_derives.mpr hf] at hparse
    cases hparse

end TaggedSuite.Filter
