import TaggedSuite.Proofs.Filter.Steps
import TaggedSuite.Proofs.Filter.Tokens
import TaggedSuite.Proofs.Tag.Name
import TaggedSuite.Proofs.Text.Boundary

/-!
# Other spellings of a filter

What a text means as a filter depends on the meaning of its tokens: their kinds, and the tags that
the tag texts stand for. Lowering a text, and writing `@` signs in front of tag texts, changes texts
and positions of tokens but not their meaning.
-/
namespace TaggedSuite.Filter
open Text

variable {size size' fuel position position' : Nat} {kind : TokenKind} {t u : Token} {f : Filter}
  {ts us rest : List Token} {cs run text back : List Char}

/-! ### What tokens mean -/

/-- The kind of the token and, if that is a tag text, its tag. -/
def Token.meaning (t : Token) : TokenKind × Option Tag :=
  (t.kind, if t.kind = .tag then (Tag.parse (String.ofList t.text)).toOption else none)

lemma kind_eq_of_meaning (h : u.meaning = t.meaning) : u.kind = t.kind := congrArg Prod.fst h

/-- The two lists of tokens have the same meaning. -/
def SameMeaning (ts us : List Token) : Prop := ts.map Token.meaning = us.map Token.meaning

namespace SameMeaning

lemma symm (h : SameMeaning ts us) : SameMeaning us ts := Eq.symm h

lemma length_eq (h : SameMeaning ts us) : ts.length = us.length := by
  simpa using congrArg List.length h

lemma nextKind_eq (h : SameMeaning ts us) : nextKind ts = nextKind us := by
  have hhead := congrArg (fun ms => ms.head?.map Prod.fst) h
  simpa [nextKind, Token.meaning, Function.comp_def] using hhead

lemma exists_cons (h : SameMeaning (t :: ts) us) :
    ∃ u us', us = u :: us' ∧ u.meaning = t.meaning ∧ SameMeaning ts us' := by
  obtain ⟨u, us', rfl, hu, hus⟩ := List.map_eq_cons_iff.1 h.symm
  exact ⟨u, us', rfl, hu, Eq.symm hus⟩

lemma eq_nil (h : SameMeaning [] us) : us = [] := List.map_eq_nil_iff.1 (Eq.symm h)

lemma cons (ht : t.meaning = u.meaning) (h : SameMeaning ts us) :
    SameMeaning (t :: ts) (u :: us) := by
  rw [SameMeaning, List.map_cons, List.map_cons, ht, h]

/-- Which gaps are dropped depends on the kinds of the tokens. -/
lemma dropGaps (h : SameMeaning ts us) (before : Option TokenKind) :
    SameMeaning (dropGaps before ts) (dropGaps before us) := by
  induction ts generalizing before us with
  | nil =>
    rw [h.eq_nil]
    rfl
  | cons t ts ih =>
    obtain ⟨u, us, rfl, hmeaning, hus⟩ := h.exists_cons
    have hkind := kind_eq_of_meaning hmeaning
    have hnext : us.head?.map (·.kind) = ts.head?.map (·.kind) := hus.symm.nextKind_eq
    rw [Filter.dropGaps, Filter.dropGaps, hkind, hnext]
    split_ifs
    · exact ih hus _
    · exact (ih hus _).cons hmeaning.symm

end SameMeaning

lemma parse_eq_of_meaning (h : u.meaning = t.meaning) (ht : t.kind = .tag) {tag : Tag}
    (htag : Tag.parse (String.ofList t.text) = .ok tag) :
    Tag.parse (String.ofList u.text) = .ok tag := by
  have hu := (kind_eq_of_meaning h).trans ht
  have htags := congrArg Prod.snd h
  simp only [Token.meaning, hu, ht, if_pos, htag, Except.toOption] at htags
  cases hparse : Tag.parse (String.ofList u.text) with
  | ok other =>
    rw [hparse] at htags
    cases htags
    rfl
  | error e =>
    rw [hparse] at htags
    cases htags

/-! ### Reading depends on the meaning -/

/-- Two ways to read that agree on tokens with the same meaning, and leave such tokens. -/
def Agree {α : Type} (read read' : List Token → Except Fault (α × List Token)) : Prop :=
  ∀ {ts us a rest}, SameMeaning ts us → read ts = .ok (a, rest) →
    ∃ rest', read' us = .ok (a, rest') ∧ SameMeaning rest rest'

/-- The functions of the reader, for texts of two sizes. -/
structure AgreeAt (size size' fuel : Nat) : Prop where
  factor : Agree (factor size fuel) (factor size' fuel)
  moreFactors : Agree (moreFactors size fuel) (moreFactors size' fuel)
  term : Agree (term size fuel) (term size' fuel)
  moreTerms : Agree (moreTerms size fuel) (moreTerms size' fuel)
  filter : Agree (filter size fuel) (filter size' fuel)

namespace AgreeAt

variable (ih : AgreeAt size size' fuel)
include ih

lemma factor_succ : Agree (Filter.factor size (fuel + 1)) (Filter.factor size' (fuel + 1)) := by
  intro ts us f rest hsame h
  cases ts with
  | nil =>
    rw [Filter.factor] at h
    cases h
  | cons t ts =>
    obtain ⟨u, us, rfl, hmeaning, hus⟩ := hsame.exists_cons
    have hkind := kind_eq_of_meaning hmeaning
    by_cases hminus : t.kind = .minus
    · obtain ⟨hend, g, hg, rfl⟩ := (factor_minus hminus).1 h
      obtain ⟨rest', hg', hrest⟩ := ih.factor hus hg
      rw [hus.nextKind_eq] at hend
      exact ⟨rest', (factor_minus (hkind.trans hminus)).2 ⟨hend, g, hg', rfl⟩, hrest⟩
    · by_cases hopening : t.kind = .opening
      · obtain ⟨hne, v, hv, hg⟩ := (factor_opening hopening).1 h
        obtain ⟨closed, hg', hclosed⟩ := ih.filter hus hg
        obtain ⟨w, rest', rfl, hw, hrest⟩ := hclosed.exists_cons
        rw [hus.nextKind_eq] at hne
        exact ⟨rest', (factor_opening (hkind.trans hopening)).2
          ⟨hne, w, (kind_eq_of_meaning hw).trans hv, hg'⟩, hrest⟩
      · by_cases htag : t.kind = .tag
        · obtain ⟨tag, hparse, rfl, rfl⟩ := (factor_tag htag).1 h
          have hparse' := parse_eq_of_meaning hmeaning htag hparse
          exact ⟨us, (factor_tag (hkind.trans htag)).2 ⟨tag, hparse', rfl, rfl⟩, hus⟩
        · exact absurd h (factor_other hminus hopening htag)

lemma moreFactors_succ :
    Agree (Filter.moreFactors size (fuel + 1)) (Filter.moreFactors size' (fuel + 1)) := by
  intro ts us fs rest hsame h
  by_cases hplus : nextKind ts = some .plus
  · cases ts with
    | nil => cases hplus
    | cons t ts =>
      have ht : t.kind = .plus := Option.some.inj hplus
      obtain ⟨u, us, rfl, hmeaning, hus⟩ := hsame.exists_cons
      obtain ⟨hend, g, gs, mid, hg, hgs, rfl⟩ := (moreFactors_plus ht).1 h
      obtain ⟨mid', hg', hmid⟩ := ih.factor hus hg
      obtain ⟨rest', hgs', hrest⟩ := ih.moreFactors hmid hgs
      rw [hus.nextKind_eq] at hend
      exact ⟨rest', (moreFactors_plus ((kind_eq_of_meaning hmeaning).trans ht)).2
        ⟨hend, g, gs, mid', hg', hgs', rfl⟩, hrest⟩
  · obtain ⟨rfl, rfl⟩ := (moreFactors_stop hplus).1 h
    rw [hsame.nextKind_eq] at hplus
    exact ⟨us, (moreFactors_stop hplus).2 ⟨rfl, rfl⟩, hsame⟩

lemma term_succ : Agree (Filter.term size (fuel + 1)) (Filter.term size' (fuel + 1)) := by
  intro ts us read rest hsame h
  obtain ⟨g, gs, mid, hg, hgs, rfl⟩ := term_eq_ok.1 h
  obtain ⟨mid', hg', hmid⟩ := ih.factor hsame hg
  obtain ⟨rest', hgs', hrest⟩ := ih.moreFactors hmid hgs
  rw [hsame.nextKind_eq]
  exact ⟨rest', term_eq_ok.2 ⟨g, gs, mid', hg', hgs', rfl⟩, hrest⟩

lemma moreTerms_succ :
    Agree (Filter.moreTerms size (fuel + 1)) (Filter.moreTerms size' (fuel + 1)) := by
  intro ts us terms rest hsame h
  by_cases hseparated : nextKind ts = some .gap ∨ nextKind ts = some .comma
  · cases ts with
    | nil => rcases hseparated with hnext | hnext <;> cases hnext
    | cons t ts =>
      have ht : t.kind = .gap ∨ t.kind = .comma := by simpa [nextKind] using hseparated
      obtain ⟨u, us, rfl, hmeaning, hus⟩ := hsame.exists_cons
      have hkind := kind_eq_of_meaning hmeaning
      obtain ⟨hend, g, gs, mid, hg, hgs, rfl⟩ := (moreTerms_separated ht).1 h
      obtain ⟨mid', hg', hmid⟩ := ih.term hus hg
      obtain ⟨rest', hgs', hrest⟩ := ih.moreTerms hmid hgs
      rw [← hkind] at ht hend
      rw [hus.nextKind_eq] at hend
      exact ⟨rest', (moreTerms_separated ht).2 ⟨hend, g, gs, mid', hg', hgs', rfl⟩, hrest⟩
  · obtain ⟨hgap, hcomma⟩ := not_or.1 hseparated
    obtain ⟨rfl, rfl⟩ := (moreTerms_stop hgap hcomma).1 h
    rw [hsame.nextKind_eq] at hgap hcomma
    exact ⟨us, (moreTerms_stop hgap hcomma).2 ⟨rfl, rfl⟩, hsame⟩

lemma filter_succ : Agree (Filter.filter size (fuel + 1)) (Filter.filter size' (fuel + 1)) := by
  intro ts us f rest hsame h
  obtain ⟨g, gs, mid, hg, hgs, rfl⟩ := filter_eq_ok.1 h
  obtain ⟨mid', hg', hmid⟩ := ih.term hsame hg
  obtain ⟨rest', hgs', hrest⟩ := ih.moreTerms hmid hgs
  exact ⟨rest', filter_eq_ok.2 ⟨g, gs, mid', hg', hgs', rfl⟩, hrest⟩

end AgreeAt

theorem agreeAt (size size' fuel : Nat) : AgreeAt size size' fuel := by
  induction fuel with
  | zero =>
    constructor
    all_goals
      intro ts us a rest _ h
      cases h
  | succ fuel ih =>
    exact ⟨ih.factor_succ, ih.moreFactors_succ, ih.term_succ, ih.moreTerms_succ, ih.filter_succ⟩

lemma parse_of_sameMeaning {raw other : String}
    (hsame : SameMeaning (tokens raw.toList) (tokens other.toList)) (h : parse raw = .ok f) :
    parse other = .ok f := by
  have hblank : raw.toList.all isBlank = other.toList.all isBlank := by
    rw [Bool.eq_iff_iff, List.all_eq_true, List.all_eq_true]
    have hnil : tokens raw.toList = [] ↔ tokens other.toList = [] := by
      rw [← List.length_eq_zero_iff, hsame.length_eq, List.length_eq_zero_iff]
    rwa [tokens_eq_nil_iff, tokens_eq_nil_iff] at hnil
  rw [parse, hblank] at h
  rw [parse]
  split_ifs at h ⊢ with hall
  · exact h
  · rw [ofTokens_eq_ok] at h ⊢
    obtain ⟨rest, hread, hrest⟩ := (agreeAt _ other.toList.length _).filter hsame h
    rw [hrest.eq_nil, hsame.length_eq] at hread
    exact hread

/-- Texts whose tokens have the same meaning read as the same filter, or both do not read. -/
theorem parse_congr {raw other : String}
    (h : SameMeaning (tokens raw.toList) (tokens other.toList)) :
    parse raw = .ok f ↔ parse other = .ok f :=
  ⟨parse_of_sameMeaning h, parse_of_sameMeaning h.symm⟩

/-! ### Spelling the tokens of a text -/

/-- Two tag texts with the same normal form have the same meaning, wherever they stand. -/
lemma meaning_eq_of_normalChars (h : Tag.normalChars run = Tag.normalChars text) :
    Token.meaning ⟨.tag, run, position⟩ = Token.meaning ⟨.tag, text, position'⟩ := by
  have hparse (tag : Tag) : Tag.parse (String.ofList run) = .ok tag ↔
      Tag.parse (String.ofList text) = .ok tag := by
    rw [Tag.parse_eq_ok_iff, Tag.parse_eq_ok_iff, String.toList_ofList, String.toList_ofList, h]
  have htags : (Tag.parse (String.ofList run)).toOption =
      (Tag.parse (String.ofList text)).toOption := by
    cases hrun : Tag.parse (String.ofList run) with
    | ok tag => rw [(hparse tag).1 hrun]
    | error e =>
      cases htext : Tag.parse (String.ofList text) with
      | ok tag =>
        rw [(hparse tag).2 htext] at hrun
        cases hrun
      | error e' => rfl
  rw [Token.meaning, Token.meaning, if_pos rfl, if_pos rfl, htags]

/-- One token of another text that stands for the token. -/
structure Respells (kind : TokenKind) (text text' back' : List Char) : Prop where
  isToken : IsToken kind text' back'
  same : text' = text ∨ kind = .tag ∧ Tag.normalChars text' = Tag.normalChars text

/-- A text that is spelled in another way token by token has tokens with the same meaning. -/
theorem sameMeaning_of_respells (spell : Nat → List Char → List Char)
    (nil : ∀ position, spell position [] = [])
    (token : ∀ {kind text back}, IsToken kind text back → ∀ position, ∃ text',
      spell position (text ++ back) = text' ++ spell (position + text.length) back ∧
        Respells kind text text' (spell (position + text.length) back))
    (cs : List Char) : ∀ position position',
      SameMeaning (tokensFrom position' (spell position cs)) (tokensFrom position cs) := by
  induction cs using token_induction with
  | nil =>
    intro position position'
    rw [nil, tokensFrom, tokensFrom]
    rfl
  | @token kind text back htoken ih =>
    intro position position'
    obtain ⟨text', hspell, htoken', hsame⟩ := token htoken position
    rw [hspell, htoken'.tokensFrom, htoken.tokensFrom]
    refine (ih _ _).cons ?_
    rcases hsame with rfl | ⟨rfl, hnormal⟩
    · rfl
    · exact meaning_eq_of_normalChars hnormal

/-! ### Lower case -/

lemma isBoundary_of_isForbidden {c : Char} (h : Tag.isForbidden c = true) : IsBoundary c := by
  simp only [Tag.isForbidden, Tag.isReserved, Tag.reserved, Bool.or_eq_true,
    List.contains_eq_mem, decide_eq_true_eq] at h
  rcases h with hblank | hreserved
  · exact isBoundary_of_isBlank hblank
  · refine isBoundary_of_mem ?_
    simp only [List.mem_cons, List.not_mem_nil, or_false] at hreserved ⊢
    tauto

lemma isBoundary_of_sign {c : Char} (h : c ∈ signs) : IsBoundary c := by
  refine isBoundary_of_mem ?_
  simp only [signs, List.mem_cons, List.not_mem_nil, or_false] at h ⊢
  tauto

/-- A token other than a tag text consists of boundaries. -/
lemma IsToken.isBoundary (h : IsToken kind text back) (hkind : kind ≠ .tag) :
    ∀ c ∈ text, IsBoundary c := by
  intro c hc
  cases h with
  | gap nonempty blank solid => exact isBoundary_of_isBlank (blank c hc)
  | sign isSign => exact isBoundary_of_sign (List.mem_singleton.1 hc ▸ isSign)
  | tag isRun => exact absurd rfl hkind

lemma IsToken.lowerChars_text (h : IsToken kind text back) (hkind : kind ≠ .tag) :
    lowerChars text = text := lowerChars_eq_self fun c hc => (h.isBoundary hkind c hc).lower

lemma IsRun.lowerChars (h : IsRun run back) : IsRun (lowerChars run) (lowerChars back) where
  nonempty := by simpa using h.nonempty
  allowed := Tag.allowed_lowerChars_of_allowed h.allowed
  noMinus := by
    have hminus : ∀ c ∈ run.head?, (c == '-') = false := by
      intro c hc
      rw [beq_eq_false_iff_ne]
      rintro rfl
      exact h.noMinus hc
    have hlower (c : Char) : (lowerChar c == '-') = (c == '-') := by
      rw [Bool.eq_iff_iff, beq_iff_eq, beq_iff_eq]
      exact lowerChar_eq_iff (by decide)
    intro hhead
    cases forall_head_lowerChars hlower false (by decide) hminus '-' hhead
  maximal := forall_head_lowerChars Tag.isForbidden_lowerChar false (by decide) h.maximal

/-- Each token of a text is a token of the lowered text. -/
lemma IsToken.lowerChars (h : IsToken kind text back) :
    IsToken kind (lowerChars text) (lowerChars back) := by
  have htext := h.lowerChars_text
  cases h with
  | gap nonempty blank solid =>
    rw [htext nofun]
    exact .gap nonempty blank (forall_head_lowerChars isBlank_lowerChar false (by decide) solid)
  | sign isSign =>
    rw [htext (kindOf_ne_tag isSign)]
    exact .sign isSign _
  | tag isRun => exact .tag isRun.lowerChars

/-- A text is lowered token by token. -/
lemma IsToken.lowerChars_append (h : IsToken kind text back) :
    Text.lowerChars (text ++ back) = Text.lowerChars text ++ Text.lowerChars back := by
  by_cases hkind : kind = .tag
  · have hmaximal := (h.isRun hkind).maximal
    exact Text.lowerChars_append fun c hc => isBoundary_of_isForbidden (hmaximal c hc)
  · rw [lowerChars_boundaries (h.isBoundary hkind), h.lowerChars_text hkind]

lemma normalChars_lowerChars (h : ∀ c ∈ run, Tag.isForbidden c = false) :
    Tag.normalChars (lowerChars run) = Tag.normalChars run := by
  rw [Tag.normalChars_plain (Tag.allowed_lowerChars_of_allowed h), Tag.normalChars_plain h,
    lowerChars_eq_self fun c hc => isLower_of_mem_lowerChars hc]

lemma IsToken.respells_lowerChars (h : IsToken kind text back) :
    Respells kind text (Text.lowerChars text) (Text.lowerChars back) := by
  refine ⟨h.lowerChars, ?_⟩
  by_cases hkind : kind = .tag
  · exact .inr ⟨hkind, normalChars_lowerChars (h.isRun hkind).allowed⟩
  · exact .inl (h.lowerChars_text hkind)

lemma sameMeaning_lowerChars (cs : List Char) :
    SameMeaning (tokens (lowerChars cs)) (tokens cs) := by
  refine (sameMeaning_of_respells (fun _ => lowerChars) ?_ ?_ cs 0 0).dropGaps none
  · exact fun _ => lowerChars_nil
  · exact fun h _ => ⟨_, h.lowerChars_append, h.respells_lowerChars⟩

/-! ### `@` signs -/

/-- The text of the token, with `@` signs in front of a tag text, as many as are to be put at its
position. -/
def Token.withAts (count : Nat → Nat) (t : Token) : List Char :=
  if t.kind = .tag then List.replicate (count t.position) '@' ++ t.text else t.text

/-- The text with `@` signs in front of tag texts, as many as are to be put at each position. -/
def withAts (count : Nat → Nat) (cs : List Char) : List Char :=
  (rawTokens cs).flatMap (Token.withAts count)

section
variable (count : Nat → Nat)

lemma flatMap_withAts (h : IsToken kind text back) :
    (tokensFrom position (text ++ back)).flatMap (Token.withAts count) =
      Token.withAts count ⟨kind, text, position⟩ ++
        (tokensFrom (position + text.length) back).flatMap (Token.withAts count) := by
  rw [h.tokensFrom, List.flatMap_cons]

/-- The first character stays, or an `@` takes the place of one that may stand in a tag. -/
lemma head?_flatMap_withAts (cs : List Char) :
    ((tokensFrom position cs).flatMap (Token.withAts count)).head? = cs.head? ∨
      ((tokensFrom position cs).flatMap (Token.withAts count)).head? = some '@' ∧
        ∃ c ∈ cs.head?, Tag.isForbidden c = false := by
  by_cases hcs : cs = []
  · subst hcs
    simp [tokensFrom]
  · obtain ⟨kind, text, back, rfl, htoken⟩ := exists_isToken hcs
    rw [flatMap_withAts count htoken]
    by_cases hkind : kind = .tag
    · subst hkind
      have hrun := htoken.isRun rfl
      simp only [Token.withAts, if_pos]
      cases count position with
      | zero =>
        left
        rw [List.replicate_zero, List.nil_append, List.head?_append_of_ne_nil _ hrun.nonempty,
          List.head?_append_of_ne_nil _ hrun.nonempty]
      | succ n =>
        right
        refine ⟨rfl, text.head hrun.nonempty, ?_, hrun.allowed _ (List.head_mem _)⟩
        rw [List.head?_append_of_ne_nil _ hrun.nonempty]
        exact List.head?_eq_some_head _
    · left
      rw [Token.withAts, if_neg hkind, List.head?_append_of_ne_nil _ htoken.nonempty,
        List.head?_append_of_ne_nil _ htoken.nonempty]

lemma IsRun.withAts (h : IsRun run back) :
    IsRun (Token.withAts count ⟨.tag, run, position⟩)
      ((tokensFrom position' back).flatMap (Token.withAts count)) where
  nonempty := List.append_ne_nil_of_right_ne_nil _ h.nonempty
  allowed := by
    intro c hc
    rcases List.mem_append.1 hc with hat | hrun
    · rw [List.eq_of_mem_replicate hat]
      decide
    · exact h.allowed c hrun
  noMinus := by
    simp only [Token.withAts, if_pos]
    cases count position with
    | zero => exact h.noMinus
    | succ n => exact nofun
  maximal := by
    intro c hc
    rcases head?_flatMap_withAts count back with hhead | ⟨-, d, hd, hallowed⟩
    · rw [hhead] at hc
      exact h.maximal c hc
    · rw [h.maximal d hd] at hallowed
      cases hallowed

/-- Each token of a text is a token of the text with signs. -/
lemma IsToken.withAts (h : IsToken kind text back) :
    IsToken kind (Token.withAts count ⟨kind, text, position⟩)
      ((Filter.tokensFrom position' back).flatMap (Token.withAts count)) := by
  cases h with
  | gap nonempty blank solid =>
    refine .gap nonempty blank fun c hc => ?_
    rcases head?_flatMap_withAts count back with hhead | ⟨hhead, -⟩
    · rw [hhead] at hc
      exact solid c hc
    · obtain rfl : '@' = c := Option.some.inj (hhead.symm.trans hc)
      decide
  | sign isSign =>
    rw [Token.withAts, if_neg (kindOf_ne_tag isSign)]
    exact .sign isSign _
  | tag isRun => exact .tag (isRun.withAts count)

lemma normalChars_ats (h : ∀ c ∈ run, Tag.isForbidden c = false) (n : Nat) :
    Tag.normalChars (List.replicate n '@' ++ run) = Tag.normalChars run := by
  have hat : ∀ c ∈ List.replicate n '@', c = '@' := fun c hc => List.eq_of_mem_replicate hc
  have hallowed : ∀ c ∈ List.replicate n '@' ++ run, Tag.isForbidden c = false := by
    intro c hc
    rcases List.mem_append.1 hc with hc | hc
    · rw [hat c hc]
      decide
    · exact h c hc
  have hboundary : ∀ c ∈ List.replicate n '@', IsBoundary c := by
    intro c hc
    rw [hat c hc]
    exact isBoundary_of_mem (by simp)
  rw [Tag.normalChars_plain hallowed, Tag.normalChars_plain h, lowerChars_boundaries hboundary,
    List.dropWhile_append_of_pos fun c hc => beq_iff_eq.2 (hat c hc)]

lemma IsToken.respells_withAts (h : IsToken kind text back) :
    Respells kind text (Token.withAts count ⟨kind, text, position⟩)
      ((Filter.tokensFrom position' back).flatMap (Token.withAts count)) := by
  refine ⟨h.withAts count, ?_⟩
  by_cases hkind : kind = .tag
  · refine .inr ⟨hkind, ?_⟩
    rw [Token.withAts, if_pos hkind]
    exact normalChars_ats (h.isRun hkind).allowed _
  · exact .inl (if_neg hkind)

lemma sameMeaning_withAts (cs : List Char) :
    SameMeaning (tokens (Filter.withAts count cs)) (tokens cs) := by
  let spell (position : Nat) (cs : List Char) :=
    (tokensFrom position cs).flatMap (Token.withAts count)
  refine (sameMeaning_of_respells spell ?_ ?_ cs 0 0).dropGaps none
  · intro position
    simp [spell, tokensFrom]
  · intro kind text back h position
    exact ⟨_, flatMap_withAts count h, h.respells_withAts count⟩

end

/-- A filter text may be lowered, and any number of `@` signs may be put in front of each tag text:
it reads as the same filter, or does not read just the same. -/
theorem parse_respelled (raw : String) (f : Filter) :
    (parse (lower raw) = .ok f ↔ parse raw = .ok f) ∧
      ∀ count, parse (String.ofList (withAts count raw.toList)) = .ok f ↔ parse raw = .ok f := by
  constructor
  · refine parse_congr ?_
    rw [toList_lower]
    exact sameMeaning_lowerChars _
  · intro count
    refine parse_congr ?_
    rw [String.toList_ofList]
    exact sameMeaning_withAts count _

/-- The sign that is put at the position of the operator goes nowhere. -/
example : withAts (fun position => position) "a -(B-c)".toList = "a -(@@@@B-c)".toList := by cbv

end TaggedSuite.Filter
