import TaggedSuite.Proofs.Filter.Lexing

/-!
# The tokens of a text

A text is empty, or one token of it stands in front of the rest: whitespace, a sign, or a run of
other characters, the first and the last as long as possible. A proof about the tokens of a text is
an induction along these. Every token stands in the text where its position says, and the whitespace
that is kept stands between the end of one factor and the beginning of another.
-/
namespace TaggedSuite.Filter

variable {kind : TokenKind} {text rest cs : List Char} {t : Token} {ts : List Token}
  {before kept : Option TokenKind}

/-- A run of characters in front of `rest` that is one token. -/
structure IsRun (run rest : List Char) : Prop where
  nonempty : run ≠ []
  allowed : ∀ c ∈ run, Tag.isForbidden c = false
  noMinus : run.head? ≠ some '-'
  maximal : ∀ c ∈ rest.head?, Tag.isForbidden c = true

/-- The text of a token of the kind in front of `rest`. -/
inductive IsToken : TokenKind → List Char → List Char → Prop where
  | gap {ws rest : List Char} (nonempty : ws ≠ []) (blank : Blank ws) (solid : Solid rest) :
      IsToken .gap ws rest
  | sign {c : Char} (isSign : c ∈ signs) (rest : List Char) : IsToken (kindOf c) [c] rest
  | tag {run rest : List Char} (isRun : IsRun run rest) : IsToken .tag run rest

lemma kindOf_ne_tag {c : Char} (h : c ∈ signs) : kindOf c ≠ .tag := by
  have hall : signs.all (fun d => kindOf d != .tag) = true := by decide
  exact bne_iff_ne.1 (List.all_eq_true.1 hall c h)

lemma IsToken.nonempty (h : IsToken kind text rest) : text ≠ [] := by
  cases h with
  | gap nonempty _ _ => exact nonempty
  | sign _ _ => exact List.cons_ne_nil _ _
  | tag isRun => exact isRun.nonempty

/-- What follows a gap does not begin with whitespace. -/
lemma IsToken.solid (h : IsToken kind text rest) (hkind : kind = .gap) : Solid rest := by
  cases h with
  | gap _ _ solid => exact solid
  | sign isSign rest => exact absurd hkind (kindOf_ne_gap (solid_sign isSign rest _ rfl))
  | tag _ => cases hkind

lemma IsToken.isRun (h : IsToken kind text rest) (hkind : kind = .tag) : IsRun text rest := by
  cases h with
  | gap _ _ _ => cases hkind
  | sign isSign _ => exact absurd hkind (kindOf_ne_tag isSign)
  | tag isRun => exact isRun

/-- The text of a token is the first token of the text that it begins. -/
lemma IsToken.tokensFrom (h : IsToken kind text rest) (position : Nat) :
    tokensFrom position (text ++ rest) =
      ⟨kind, text, position⟩ :: tokensFrom (position + text.length) rest := by
  cases h with
  | gap nonempty blank solid => exact tokensFrom_gap nonempty blank solid position
  | sign isSign _ => exact tokensFrom_sign isSign position rest
  | tag isRun =>
    exact tokensFrom_tag isRun.nonempty isRun.allowed isRun.noMinus isRun.maximal position

/-- Every text but the empty one begins with a token. -/
lemma exists_isToken (h : cs ≠ []) :
    ∃ kind text rest, cs = text ++ rest ∧ IsToken kind text rest := by
  obtain ⟨ws, body, rfl, hws, hbody⟩ := exists_blank_solid cs
  by_cases hne : ws = []
  · subst hne
    rcases solid_cases hbody with rfl | ⟨c, rest, rfl, hc⟩ | ⟨run, rest, rfl, hrun, hall, hm, hrest⟩
    · exact absurd rfl h
    · exact ⟨_, [c], rest, rfl, .sign hc rest⟩
    · exact ⟨_, run, rest, rfl, .tag ⟨hrun, hall, hm, hrest⟩⟩
  · exact ⟨_, ws, body, rfl, .gap hne hws hbody⟩

/-- Induction along the tokens of a text. -/
theorem token_induction {P : List Char → Prop} (nil : P [])
    (token : ∀ {kind text rest}, IsToken kind text rest → P rest → P (text ++ rest))
    (cs : List Char) : P cs := by
  by_cases h : cs = []
  · rw [h]
    exact nil
  · obtain ⟨kind, text, rest, rfl, htoken⟩ := exists_isToken h
    have hshorter : rest.length < (text ++ rest).length := by
      have := List.length_pos_iff.2 htoken.nonempty
      rw [List.length_append]
      omega
    exact token htoken (token_induction nil token rest)
  termination_by cs.length

/-- The tokens make up the text. -/
lemma flatMap_text_tokensFrom (cs : List Char) :
    ∀ position, (tokensFrom position cs).flatMap (·.text) = cs := by
  induction cs using token_induction with
  | nil =>
    intro position
    simp [tokensFrom]
  | token htoken ih =>
    intro position
    rw [htoken.tokensFrom, List.flatMap_cons, ih]

/-! ### Where tokens stand -/

/-- The token stands in the text, with as many characters before it as its position says. -/
def StandsIn (cs : List Char) (t : Token) : Prop :=
  ∃ front back, cs = front ++ (t.text ++ back) ∧ t.position = front.length ∧
    IsToken t.kind t.text back

lemma exists_of_mem_tokensFrom (cs : List Char) : ∀ {position : Nat}, t ∈ tokensFrom position cs →
    ∃ front back, cs = front ++ (t.text ++ back) ∧ t.position = position + front.length ∧
      IsToken t.kind t.text back := by
  induction cs using token_induction with
  | nil =>
    intro position ht
    simp [tokensFrom] at ht
  | @token kind text rest htoken ih =>
    intro position ht
    rw [htoken.tokensFrom] at ht
    rcases List.mem_cons.1 ht with rfl | ht
    · exact ⟨[], rest, rfl, rfl, htoken⟩
    · obtain ⟨front, back, rfl, hposition, hback⟩ := ih ht
      refine ⟨text ++ front, back, (List.append_assoc ..).symm, ?_, hback⟩
      rw [hposition, List.length_append, Nat.add_assoc]

lemma dropGaps_sublist (before : Option TokenKind) (ts : List Token) :
    (dropGaps before ts).Sublist ts := by
  induction ts generalizing before with
  | nil => exact .slnil
  | cons t ts ih =>
    rw [dropGaps]
    split_ifs
    · exact (ih _).cons t
    · exact (ih _).cons_cons t

theorem standsIn_of_mem_tokens (h : t ∈ tokens cs) : StandsIn cs t := by
  obtain ⟨front, back, hcs, hposition, htoken⟩ :=
    exists_of_mem_tokensFrom cs ((dropGaps_sublist none _).mem h)
  exact ⟨front, back, hcs, by rw [hposition, Nat.zero_add], htoken⟩

lemma StandsIn.position_lt (h : StandsIn cs t) : t.position < cs.length := by
  obtain ⟨front, back, rfl, hposition, htoken⟩ := h
  have := List.length_pos_iff.2 htoken.nonempty
  simp only [List.length_append]
  omega

/-- The text of the token is what one reads at its position. -/
lemma StandsIn.isPrefix (h : StandsIn cs t) : t.text <+: cs.drop t.position := by
  obtain ⟨front, back, rfl, hposition, -⟩ := h
  rw [hposition, List.drop_left]
  exact List.prefix_append _ _

/-- A token of the kind of a sign is that sign. -/
lemma IsToken.text_of_sign (h : IsToken kind text rest) {c : Char} (hc : c ∈ signs)
    (hkind : kind = kindOf c) : text = [c] := by
  simp only [signs, List.mem_cons, List.not_mem_nil, or_false] at hc
  cases h with
  | gap => rcases hc with rfl | rfl | rfl | rfl | rfl <;> cases hkind
  | @sign d isSign =>
    simp only [signs, List.mem_cons, List.not_mem_nil, or_false] at isSign
    rcases hc with rfl | rfl | rfl | rfl | rfl <;>
      rcases isSign with rfl | rfl | rfl | rfl | rfl <;> first | rfl | cases hkind
  | tag => rcases hc with rfl | rfl | rfl | rfl | rfl <;> cases hkind

/-! ### The gaps that are kept -/

/-- Every gap among the tokens stands behind one that whitespace matters after, and in front of one
that begins a factor. -/
def Spaced : Option TokenKind → List Token → Prop
  | _, [] => True
  | before, t :: rest =>
    (t.kind = .gap → bindsRight before = false ∧ endsTerm (nextKind rest) = false) ∧
      Spaced (some t.kind) rest

/-- The gaps that are left bind nothing on either side. -/
lemma spaced_dropGaps (cs : List Char) : ∀ {position : Nat} {before kept : Option TokenKind},
    (before ≠ some .gap → kept = before) → (before = some .gap → Solid cs) →
    Spaced kept (dropGaps before (tokensFrom position cs)) := by
  induction cs using token_induction with
  | nil =>
    intro position before kept _ _
    simp [tokensFrom, Spaced]
  | @token kind text rest htoken ih =>
    intro position before kept hkept hsolid
    rw [htoken.tokensFrom]
    by_cases hgap : kind = .gap
    · have hrest := htoken.solid hgap
      subst hgap
      have hbefore : before ≠ some .gap := by
        intro hbefore
        have hfirst := firstKind_ne_gap (hsolid hbefore)
        rw [← nextKind_tokensFrom position, htoken.tokensFrom] at hfirst
        exact hfirst rfl
      have hnext : nextKind (dropGaps (some .gap) (tokensFrom (position + text.length) rest)) =
          firstKind rest := nextKind_of_lexed hrest ⟨_, rfl⟩
      have hraw : (tokensFrom (position + text.length) rest).head?.map (·.kind) = firstKind rest :=
        nextKind_tokensFrom _ rest
      rw [dropGaps]
      split_ifs with hdrop
      · -- the token behind a dropped gap does not depend on what stands before the gap
        exact ih (fun hne => absurd rfl hne) fun _ => hrest
      · rw [hraw] at hdrop
        simp only [true_and, not_or, Bool.not_eq_true] at hdrop
        refine ⟨fun _ => ⟨?_, ?_⟩, ih (fun _ => rfl) fun _ => hrest⟩
        · rw [hkept hbefore]
          exact hdrop.1
        · rw [hnext]
          have hne := firstKind_ne_gap hrest
          revert hne hdrop
          cases firstKind rest with
          | none =>
            intro hdrop
            cases hdrop.2
          | some next => cases next <;> simp [endsTerm, bindsLeft]
    · rw [dropGaps_cons_of_ne hgap]
      exact ⟨fun h => absurd h hgap, ih (fun _ => rfl) fun h => absurd (Option.some.inj h) hgap⟩

theorem spaced_tokens (cs : List Char) : Spaced none (tokens cs) :=
  spaced_dropGaps cs (fun _ => rfl) nofun

/-- What holds of all tokens holds of the last ones. -/
lemma Spaced.suffix {us : List Token} (h : Spaced before ts) (hsuffix : us <:+ ts) :
    ∃ before, Spaced before us := by
  induction ts generalizing before with
  | nil =>
    rw [List.suffix_nil.1 hsuffix]
    exact ⟨before, trivial⟩
  | cons t ts ih =>
    rcases List.suffix_cons_iff.1 hsuffix with rfl | hsuffix
    · exact ⟨before, h⟩
    · exact ih h.2 hsuffix

/-- No gap stands behind a token that whitespace does not matter after. -/
lemma Spaced.nextKind_ne_gap (h : Spaced before ts) (hbefore : bindsRight before = true) :
    nextKind ts ≠ some .gap := by
  cases ts with
  | nil => exact nofun
  | cons t rest =>
    intro hgap
    have hkind : t.kind = .gap := Option.some.inj hgap
    rw [(h.1 hkind).1] at hbefore
    cases hbefore

/-- A text with a character other than whitespace has a token that matters. -/
lemma tokens_eq_nil_iff : tokens cs = [] ↔ Blank cs := by
  obtain ⟨ws, body, rfl, hws, hbody⟩ := exists_blank_solid cs
  have hnext := nextKind_of_lexed hbody (lexed_blank_dropped hws hbody (.inl rfl) (lexed_tokens _))
  constructor
  · intro hnil
    rw [hnil] at hnext
    have hempty : body = [] := by
      cases body with
      | nil => rfl
      | cons c body => cases hnext
    rw [hempty, List.append_nil]
    exact hws
  · intro hblank
    have hempty : body = [] := by
      cases body with
      | nil => rfl
      | cons c body =>
        have hc := hbody c rfl
        rw [hblank c (by simp)] at hc
        cases hc
    subst hempty
    cases htokens : tokens (ws ++ []) with
    | nil => rfl
    | cons t ts =>
      rw [htokens] at hnext
      cases hnext

end TaggedSuite.Filter
