import TaggedSuite.Proofs.Filter.Steps
import TaggedSuite.Proofs.Filter.Tokens
import TaggedSuite.Selection.Basic

/-!
# Where a fault lies

By induction on the fuel, every fault that the reader reports has its cause among the tokens: it is
that of a token which the fault names, or the text ends with an opening parenthesis. The reader asks
for a factor only where no gap can stand, and at the end of the text only behind an opening
parenthesis. The fuel never runs out: each function leaves the last tokens of those it was given,
and four units of fuel for a token suffice.
-/
namespace TaggedSuite.Filter

variable {size fuel need need' : Nat} {all ts us rest : List Token} {t : Token}
  {before : Option TokenKind}

/-- The detail of a fault names the token. -/
def Detail.Names : Detail → Token → Prop
  | .dangling c, t => c ∈ ['+', '-', ','] ∧ t.text = [c]
  | .emptyGroup, t | .unbalancedOpening, t => t.text = ['(']
  | .unbalancedClosing, t => t.text = [')']
  | .invalidTag text, t => t.kind = .tag ∧ text = String.ofList t.text
  | .unexpected text, t => t.kind ≠ .gap ∧ text = String.ofList t.text
  | .unexpectedEnd, _ => False

/-- The last token is an opening parenthesis. -/
def EndsOpen (ts : List Token) : Prop := ∃ front t, ts = front ++ [t] ∧ t.kind = .opening

/-- The fault has its cause among the tokens of a text with `size` characters. -/
inductive HasCause (size : Nat) (all : List Token) : Fault → Prop where
  | token {t : Token} {detail : Detail} (mem : t ∈ all) (names : detail.Names t) :
      HasCause size all ⟨detail, t.position⟩
  | ending (endsOpen : EndsOpen all) : HasCause size all ⟨.unexpectedEnd, size⟩

/-- What reading gives: the last ones of the tokens, with at least so many taken, or a fault that
has a cause. -/
def Explained (size : Nat) (all ts : List Token) (taken : Nat) {α : Type} :
    Except Fault (α × List Token) → Prop
  | .ok (_, us) => us <:+ ts ∧ us.length + taken ≤ ts.length
  | .error fault => HasCause size all fault

/-- A factor may be asked for in front of the tokens. -/
def Ready (all ts : List Token) : Prop := nextKind ts ≠ some .gap ∧ (ts = [] → EndsOpen all)

/-- The tokens of a text: gaps stand only where they matter, and every token is what its kind says.
-/
structure IsTokenList (all : List Token) : Prop where
  spaced : ∃ before, Spaced before all
  genuine : ∀ t ∈ all, ∃ back, IsToken t.kind t.text back

lemma isTokenList_tokens (cs : List Char) : IsTokenList (tokens cs) where
  spaced := ⟨none, spaced_tokens cs⟩
  genuine t ht := by
    obtain ⟨front, back, _, _, htoken⟩ := standsIn_of_mem_tokens ht
    exact ⟨back, htoken⟩

section
variable {α β : Type} {x : Except Fault (α × List Token)}

/-- Work goes on with the tokens that are left. -/
lemma Explained.bind {f : α × List Token → Except Fault (β × List Token)}
    (hx : Explained size all rest need x)
    (hf : ∀ a us, us <:+ rest → us.length + need ≤ rest.length →
      Explained size all ts need' (f (a, us))) : Explained size all ts need' (x >>= f) := by
  cases x with
  | error fault => exact hx
  | ok result => exact hf result.1 result.2 hx.1 hx.2

end

namespace IsTokenList

variable (h : IsTokenList all)
include h

lemma text_of_sign (ht : t ∈ all) {c : Char} (hc : c ∈ signs) (hkind : t.kind = kindOf c) :
    t.text = [c] := by
  obtain ⟨back, htoken⟩ := h.genuine t ht
  exact htoken.text_of_sign hc hkind

/-- Behind a token that whitespace does not matter after there is no gap. -/
lemma nextKind_ne_gap (hts : t :: ts <:+ all) (hbinds : bindsRight (some t.kind) = true) :
    nextKind ts ≠ some .gap := by
  obtain ⟨before, hall⟩ := h.spaced
  obtain ⟨before, hspaced⟩ := hall.suffix hts
  exact hspaced.2.nextKind_ne_gap hbinds

/-- Behind a gap there is the beginning of a factor. -/
lemma endsTerm_of_gap (hts : t :: ts <:+ all) (hgap : t.kind = .gap) :
    endsTerm (nextKind ts) = false := by
  obtain ⟨before, hall⟩ := h.spaced
  obtain ⟨before, hspaced⟩ := hall.suffix hts
  exact (hspaced.1 hgap).2

end IsTokenList

lemma ready_of_endsTerm (h : endsTerm (nextKind ts) = false) : Ready all ts := by
  constructor
  · intro hgap
    rw [hgap] at h
    cases h
  · rintro rfl
    cases h

lemma mem_of_suffix (h : t :: ts <:+ all) : t ∈ all := h.subset List.mem_cons_self

lemma suffix_of_cons (h : t :: ts <:+ all) : ts <:+ all := (List.suffix_cons t ts).trans h

/-- What each function of the reader gives with so much fuel. -/
structure ExplainsAt (size : Nat) (all : List Token) (fuel : Nat) : Prop where
  factor : ∀ {ts}, ts <:+ all → Ready all ts → 4 * ts.length + 1 ≤ fuel →
    Explained size all ts 1 (factor size fuel ts)
  moreFactors : ∀ {ts}, ts <:+ all → 4 * ts.length + 1 ≤ fuel →
    Explained size all ts 0 (moreFactors size fuel ts)
  term : ∀ {ts}, ts <:+ all → Ready all ts → 4 * ts.length + 3 ≤ fuel →
    Explained size all ts 1 (term size fuel ts)
  moreTerms : ∀ {ts}, ts <:+ all → 4 * ts.length + 1 ≤ fuel →
    Explained size all ts 0 (moreTerms size fuel ts)
  filter : ∀ {ts}, ts <:+ all → Ready all ts → 4 * ts.length + 4 ≤ fuel →
    Explained size all ts 1 (filter size fuel ts)

section
variable (h : IsTokenList all) (ih : ExplainsAt size all fuel)
include h ih

lemma ExplainsAt.factor_succ (hts : ts <:+ all) (hready : Ready all ts)
    (hfuel : 4 * ts.length + 1 ≤ fuel + 1) :
    Explained size all ts 1 (Filter.factor size (fuel + 1) ts) := by
  cases ts with
  | nil =>
    rw [Filter.factor]
    exact .ending (hready.2 rfl)
  | cons t ts =>
    have hmem := mem_of_suffix hts
    have hrest := suffix_of_cons hts
    have htail := List.suffix_cons t ts
    simp only [List.length_cons] at hfuel
    rw [Filter.factor]
    cases hkind : t.kind with
    | minus =>
      dsimp only
      split_ifs with hend
      · exact .token hmem ⟨by simp, h.text_of_sign hmem (c := '-') (by simp [signs]) hkind⟩
      · have hnext : Ready all ts := ready_of_endsTerm (Bool.eq_false_iff.2 hend)
        refine (ih.factor hrest hnext (by omega)).bind fun g us hus hlength => ?_
        exact ⟨hus.trans htail, by simp only [List.length_cons]; omega⟩
    | opening =>
      have htext := h.text_of_sign hmem (c := '(') (by simp [signs]) hkind
      dsimp only
      split_ifs with hend
      · exact .token hmem htext
      · have hnext : Ready all ts := by
          refine ⟨h.nextKind_ne_gap hts (by rw [hkind]; rfl), ?_⟩
          rintro rfl
          obtain ⟨front, hall⟩ := hts
          exact ⟨front, t, hall.symm, hkind⟩
        refine (ih.filter hrest hnext (by omega)).bind fun g us hus hlength => ?_
        cases us with
        | nil => exact .token hmem htext
        | cons u us =>
          dsimp only
          split_ifs
          · refine ⟨((List.suffix_cons u us).trans hus).trans htail, ?_⟩
            simp only [List.length_cons] at *
            omega
          · exact .token hmem htext
    | tag =>
      dsimp only
      cases Tag.parse (String.ofList t.text) with
      | ok tag => exact ⟨htail, by simp⟩
      | error e => exact .token hmem ⟨hkind, rfl⟩
    | plus =>
      have htext := h.text_of_sign hmem (c := '+') (by simp [signs]) hkind
      simp only [Token.misplaced, hkind]
      exact .token hmem ⟨by simp, htext⟩
    | comma =>
      have htext := h.text_of_sign hmem (c := ',') (by simp [signs]) hkind
      simp only [Token.misplaced, hkind]
      exact .token hmem ⟨by simp, htext⟩
    | closing =>
      have htext := h.text_of_sign hmem (c := ')') (by simp [signs]) hkind
      simp only [Token.misplaced, hkind]
      exact .token hmem htext
    | gap => exact absurd (by simp [nextKind, hkind]) hready.1

lemma ExplainsAt.moreFactors_succ (hts : ts <:+ all) (hfuel : 4 * ts.length + 1 ≤ fuel + 1) :
    Explained size all ts 0 (Filter.moreFactors size (fuel + 1) ts) := by
  cases ts with
  | nil =>
    rw [Filter.moreFactors]
    exact ⟨List.suffix_rfl, le_rfl⟩
  | cons t ts =>
    have hmem := mem_of_suffix hts
    have hrest := suffix_of_cons hts
    have htail := List.suffix_cons t ts
    simp only [List.length_cons] at hfuel
    rw [Filter.moreFactors]
    split_ifs with hplus hend
    · exact ⟨List.suffix_rfl, le_rfl⟩
    · have hkind : t.kind = .plus := not_not.1 hplus
      exact .token hmem ⟨by simp, h.text_of_sign hmem (c := '+') (by simp [signs]) hkind⟩
    · have hnext : Ready all ts := ready_of_endsTerm (Bool.eq_false_iff.2 hend)
      refine (ih.factor hrest hnext (by omega)).bind fun g us hus hlength => ?_
      have hmore := ih.moreFactors (hus.trans hrest) (by omega)
      refine hmore.bind fun gs vs hvs hlength' => ⟨(hvs.trans hus).trans htail, ?_⟩
      simp only [List.length_cons]
      omega

omit h in
lemma ExplainsAt.term_succ (hts : ts <:+ all) (hready : Ready all ts)
    (hfuel : 4 * ts.length + 3 ≤ fuel + 1) :
    Explained size all ts 1 (Filter.term size (fuel + 1) ts) := by
  rw [Filter.term]
  refine (ih.factor hts hready (by omega)).bind fun g us hus hlength => ?_
  have hmore := ih.moreFactors (hus.trans hts) (by omega)
  exact hmore.bind fun gs vs hvs hlength' => ⟨hvs.trans hus, by omega⟩

lemma ExplainsAt.moreTerms_succ (hts : ts <:+ all) (hfuel : 4 * ts.length + 1 ≤ fuel + 1) :
    Explained size all ts 0 (Filter.moreTerms size (fuel + 1) ts) := by
  cases ts with
  | nil =>
    rw [Filter.moreTerms]
    exact ⟨List.suffix_rfl, le_rfl⟩
  | cons t ts =>
    have hmem := mem_of_suffix hts
    have hrest := suffix_of_cons hts
    have htail := List.suffix_cons t ts
    simp only [List.length_cons] at hfuel
    rw [Filter.moreTerms]
    split_ifs with hother hend
    · exact ⟨List.suffix_rfl, le_rfl⟩
    · exact .token hmem ⟨by simp, h.text_of_sign hmem (c := ',') (by simp [signs]) hend.1⟩
    · have hnext : Ready all ts := by
        by_cases hgap : t.kind = .gap
        · exact ready_of_endsTerm (h.endsTerm_of_gap hts hgap)
        · have hcomma : t.kind = .comma := by
            by_contra hcomma
            exact hother ⟨hgap, hcomma⟩
          refine ⟨h.nextKind_ne_gap hts (by rw [hcomma]; rfl), ?_⟩
          rintro rfl
          exact absurd ⟨hcomma, rfl⟩ hend
      refine (ih.term hrest hnext (by omega)).bind fun g us hus hlength => ?_
      have hmore := ih.moreTerms (hus.trans hrest) (by omega)
      refine hmore.bind fun gs vs hvs hlength' => ⟨(hvs.trans hus).trans htail, ?_⟩
      simp only [List.length_cons]
      omega

omit h in
lemma ExplainsAt.filter_succ (hts : ts <:+ all) (hready : Ready all ts)
    (hfuel : 4 * ts.length + 4 ≤ fuel + 1) :
    Explained size all ts 1 (Filter.filter size (fuel + 1) ts) := by
  rw [Filter.filter]
  refine (ih.term hts hready (by omega)).bind fun g us hus hlength => ?_
  have hmore := ih.moreTerms (hus.trans hts) (by omega)
  exact hmore.bind fun gs vs hvs hlength' => ⟨hvs.trans hus, by omega⟩

end

theorem explainsAt (size : Nat) (h : IsTokenList all) (fuel : Nat) : ExplainsAt size all fuel := by
  induction fuel with
  | zero => constructor <;> intros <;> omega
  | succ fuel ih =>
    exact ⟨ih.factor_succ h, ih.moreFactors_succ h, ih.term_succ, ih.moreTerms_succ h,
      ih.filter_succ⟩

/-- The terms after the first one go on over all gaps. -/
lemma nextKind_ne_gap_of_moreTerms {terms : List Term}
    (h : moreTerms size fuel ts = .ok (terms, us)) : nextKind us ≠ some .gap := by
  induction fuel generalizing ts terms with
  | zero =>
    rw [moreTerms] at h
    cases h
  | succ fuel ih =>
    by_cases hgap : nextKind ts = some .gap
    · cases ts with
      | nil => cases hgap
      | cons t ts =>
        obtain ⟨-, g, gs, mid, -, hgs, -⟩ :=
          (moreTerms_separated (.inl (Option.some.inj hgap))).1 h
        exact ih hgs
    · by_cases hcomma : nextKind ts = some .comma
      · cases ts with
        | nil => cases hcomma
        | cons t ts =>
          obtain ⟨-, g, gs, mid, -, hgs, -⟩ :=
            (moreTerms_separated (.inr (Option.some.inj hcomma))).1 h
          exact ih hgs
      · rwa [((moreTerms_stop hgap hcomma).1 h).2]

lemma hasCause_of_ofTokens (h : IsTokenList all) (hready : Ready all all) {fault : Fault}
    (hfault : ofTokens size all = .error fault) : HasCause size all fault := by
  have hfilter := (explainsAt size h (4 * all.length + 4)).filter List.suffix_rfl hready
    le_rfl
  cases hread : filter size (4 * all.length + 4) all with
  | error e =>
    rw [hread] at hfilter
    simp only [ofTokens, hread, bind, Except.bind, Except.error.injEq] at hfault
    rwa [← hfault]
  | ok result =>
    obtain ⟨f, us⟩ := result
    rw [hread] at hfilter
    simp only [ofTokens, hread, bind, Except.bind] at hfault
    cases us with
    | nil => cases hfault
    | cons t us =>
      have hmem := mem_of_suffix hfilter.1
      have hgap : t.kind ≠ .gap := by
        obtain ⟨g, gs, mid, -, hgs, -⟩ := filter_eq_ok.1 hread
        have hnext := nextKind_ne_gap_of_moreTerms hgs
        simpa [nextKind] using hnext
      dsimp only at hfault
      split_ifs at hfault with hclosing
      · cases hfault
        exact .token hmem (h.text_of_sign hmem (c := ')') (by simp [signs]) hclosing)
      · cases hfault
        exact .token hmem ⟨hgap, rfl⟩

/-- Where a text does not read, the cause is among its tokens. -/
lemma hasCause_of_parse {raw : String} {fault : Fault} (h : parse raw = .error fault) :
    HasCause raw.length (tokens raw.toList) fault := by
  rw [parse] at h
  split_ifs at h with hblank
  have hready : Ready (tokens raw.toList) (tokens raw.toList) := by
    refine ⟨(spaced_tokens _).nextKind_ne_gap rfl, fun hnil => absurd ?_ hblank⟩
    exact List.all_eq_true.2 (tokens_eq_nil_iff.1 hnil)
  rw [String.length_toList] at h
  exact hasCause_of_ofTokens (isTokenList_tokens _) hready h

/-- A fault lies at the token that it names. Only the end of the text, which is expected nowhere
but behind an opening parenthesis, is told with the position behind the last character. The text
that does not read stands in the error. -/
theorem fault_position_of_parse {raw : String} {fault : Fault} (h : parse raw = .error fault) :
    (∀ titlePattern options,
        Selection.ofTexts raw titlePattern options = .error (.malformed raw fault)) ∧
      fault.position ≤ raw.length ∧
      (fault.position = raw.length ↔ fault.detail = .unexpectedEnd) ∧
      (fault.detail = .unexpectedEnd → EndsOpen (tokens raw.toList)) ∧
      (fault.detail ≠ .unexpectedEnd →
        ∃ t ∈ tokens raw.toList, t.position = fault.position ∧
          t.text <+: raw.toList.drop fault.position ∧ fault.detail.Names t) := by
  refine ⟨fun titlePattern options => ?_, ?_⟩
  · rw [Selection.ofTexts]
    split
    · next f hf =>
      rw [h] at hf
      cases hf
    · next e he =>
      rw [h] at he
      cases he
      rfl
  · cases hasCause_of_parse h with
    | ending endsOpen => exact ⟨le_rfl, iff_of_true rfl rfl, fun _ => endsOpen, absurd rfl⟩
    | @token t detail mem names =>
      have hstands := standsIn_of_mem_tokens mem
      have hposition : t.position < raw.length := by
        rw [← String.length_toList]
        exact hstands.position_lt
      have hdetail : detail ≠ .unexpectedEnd := by
        rintro rfl
        exact names
      exact ⟨hposition.le, iff_of_false hposition.ne hdetail, fun hend => absurd hend hdetail,
        fun _ => ⟨t, mem, rfl, hstands.isPrefix, names⟩⟩

/-- The group that is left open begins behind a gap that is dropped and an operator. -/
theorem fault_position_of_open_group :
    parse " -(b" = .error ⟨.unbalancedOpening, 2⟩ ∧
      ∃ t ∈ tokens " -(b".toList, t.position = 2 ∧
        t.text <+: " -(b".toList.drop 2 ∧ t.text = ['('] := by
  have hgap : IsToken .gap [' '] ['-', '(', 'b'] :=
    .gap (by simp) (by simp [Blank, Text.isBlank_space]) (solid_sign (by simp [signs]) _)
  have hminus : IsToken .minus ['-'] ['(', 'b'] :=
    .sign (c := '-') (by simp [signs]) _
  have hopening : IsToken .opening ['('] ['b'] := .sign (c := '(') (by simp [signs]) _
  have htag : IsToken .tag ['b'] [] := .tag ⟨by simp, by simp; decide, by simp, by simp⟩
  have htokens : rawTokens " -(b".toList =
      [⟨.gap, [' '], 0⟩, ⟨.minus, ['-'], 1⟩, ⟨.opening, ['('], 2⟩, ⟨.tag, ['b'], 3⟩] := calc
    rawTokens " -(b".toList
      = ⟨.gap, [' '], 0⟩ :: tokensFrom 1 ['-', '(', 'b'] := hgap.tokensFrom 0
    _ = ⟨.gap, [' '], 0⟩ :: ⟨.minus, ['-'], 1⟩ :: tokensFrom 2 ['(', 'b'] :=
      congrArg _ (hminus.tokensFrom 1)
    _ = ⟨.gap, [' '], 0⟩ :: ⟨.minus, ['-'], 1⟩ :: ⟨.opening, ['('], 2⟩ :: tokensFrom 3 ['b'] :=
      congrArg _ (congrArg _ (hopening.tokensFrom 2))
    _ = ⟨.gap, [' '], 0⟩ :: ⟨.minus, ['-'], 1⟩ :: ⟨.opening, ['('], 2⟩ :: ⟨.tag, ['b'], 3⟩ ::
        tokensFrom 4 [] := congrArg _ (congrArg _ (congrArg _ (htag.tokensFrom 3)))
    _ = _ := by rw [tokensFrom]
  have hparse : parse " -(b" = .error ⟨.unbalancedOpening, 2⟩ := by
    rw [parse, tokens, htokens]
    decide
  obtain ⟨-, -, -, -, hcause⟩ := fault_position_of_parse hparse
  obtain ⟨t, hmem, hposition, htext, hnames⟩ := hcause (by decide)
  exact ⟨hparse, t, hmem, hposition, htext, hnames⟩

end TaggedSuite.Filter
