import Mathlib.Data.List.TakeWhile
import TaggedSuite.Filter.Parser
import TaggedSuite.Proofs.Filter.Grammar

/-!
# Texts and their tokens

`Lexed before cs ts` says that `ts` are the tokens that matter of the text `cs` when a token of kind
`before` stands in front of it. Its equations follow the text: whitespace, a sign, a run of tag
characters. A proof about reading takes a text apart by them and never looks at positions.
-/
namespace TaggedSuite.Filter

/-- The tokens of a text after a token of the kind, wherever the text stands. -/
def Lexed (before : Option TokenKind) (cs : List Char) (ts : List Token) : Prop :=
  ∃ position, ts = dropGaps before (tokensFrom position cs)

/-- A text that does not begin with whitespace. -/
def Solid (cs : List Char) : Prop := ∀ c ∈ cs.head?, Text.isBlank c = false

/-- The signs of a filter. -/
def signs : List Char := ['-', '+', ',', '(', ')']

lemma lexed_tokens (cs : List Char) : Lexed none cs (tokens cs) := ⟨0, rfl⟩

@[simp] lemma lexed_nil {before : Option TokenKind} {ts : List Token} :
    Lexed before [] ts ↔ ts = [] := by simp [Lexed, tokensFrom]

lemma isTagChar_eq_not_isForbidden (c : Char) : isTagChar c = !Tag.isForbidden c := by
  have hsingle : (single? c).isNone = !Tag.isReserved c := by
    unfold single?
    split
    all_goals first | rfl | skip
    simp_all [Tag.isReserved, Tag.reserved]
  simp only [isTagChar, Tag.isForbidden, hsingle, Bool.not_or]

/-- The first token of a text that begins with a sign. -/
lemma tokensFrom_sign {c : Char} (hc : c ∈ signs) (position : Nat) (rest : List Char) :
    tokensFrom position (c :: rest) =
      ⟨kindOf c, [c], position⟩ :: tokensFrom (position + 1) rest := by
  have htail : tailLength (kindOf c) rest = 0 := by
    simp only [signs, List.mem_cons, List.not_mem_nil, or_false] at hc
    rcases hc with rfl | rfl | rfl | rfl | rfl <;> rfl
  rw [tokensFrom, htail]
  simp

lemma take_length_takeWhile (p : Char → Bool) {run rest : List Char}
    (hrun : ∀ c ∈ run, p c = true) (hrest : ∀ c ∈ rest.head?, p c = false) :
    ((run ++ rest).takeWhile p).length = run.length := by
  rw [List.takeWhile_append_of_pos hrun]
  cases rest with
  | nil => simp
  | cons c rest => simp [List.takeWhile_cons_of_neg, hrest c rfl]

/-- The first token of a text that begins with whitespace. -/
lemma tokensFrom_gap {ws rest : List Char} (hne : ws ≠ []) (hws : Blank ws) (hrest : Solid rest)
    (position : Nat) :
    tokensFrom position (ws ++ rest) =
      ⟨.gap, ws, position⟩ :: tokensFrom (position + ws.length) rest := by
  cases ws with
  | nil => contradiction
  | cons c ws =>
    have hkind : kindOf c = .gap := by simp [kindOf, hws c List.mem_cons_self]
    have hlength := take_length_takeWhile Text.isBlank
      (fun d hd => hws d (List.mem_cons_of_mem _ hd)) hrest
    rw [List.cons_append, tokensFrom, hkind]
    simp only [tailLength, hlength]
    simp only [List.take_left, List.drop_left, List.length_cons]
    rw [Nat.add_assoc, Nat.add_comm 1]

/-- The first token of a text that begins with a run of tag characters. -/
lemma tokensFrom_tag {run rest : List Char} (hne : run ≠ [])
    (hrun : ∀ c ∈ run, Tag.isForbidden c = false) (hminus : run.head? ≠ some '-')
    (hrest : ∀ c ∈ rest.head?, Tag.isForbidden c = true) (position : Nat) :
    tokensFrom position (run ++ rest) =
      ⟨.tag, run, position⟩ :: tokensFrom (position + run.length) rest := by
  have htag : ∀ c ∈ run, isTagChar c = true := by
    intro c hc
    rw [isTagChar_eq_not_isForbidden, hrun c hc]
    rfl
  cases run with
  | nil => contradiction
  | cons c run =>
    have hkind : kindOf c = .tag := by
      have hc := htag c List.mem_cons_self
      simp only [isTagChar, Bool.and_eq_true, Bool.not_eq_true', Option.isNone_iff_eq_none] at hc
      have hne : c ≠ '-' := by
        rintro rfl
        exact hminus rfl
      simp [kindOf, hc.1, hc.2, hne]
    have hlength := take_length_takeWhile isTagChar
      (fun d hd => htag d (List.mem_cons_of_mem _ hd))
      (fun d hd => by rw [isTagChar_eq_not_isForbidden, hrest d hd]; rfl)
    rw [List.cons_append, tokensFrom, hkind]
    simp only [tailLength, hlength]
    simp only [List.take_left, List.drop_left, List.length_cons]
    rw [Nat.add_assoc, Nat.add_comm 1]

/-- The kind of the token that a text begins with. -/
def firstKind (cs : List Char) : Option TokenKind := cs.head?.map kindOf

lemma nextKind_tokensFrom (position : Nat) (cs : List Char) :
    nextKind (tokensFrom position cs) = firstKind cs := by
  cases cs with
  | nil => simp [tokensFrom, nextKind, firstKind]
  | cons c rest => simp [tokensFrom, nextKind, firstKind]

lemma single?_ne_gap (c : Char) : single? c ≠ some .gap := by
  unfold single?
  split <;> exact nofun

lemma kindOf_ne_gap {c : Char} (h : Text.isBlank c = false) : kindOf c ≠ .gap := by
  unfold kindOf
  rw [if_neg (by rw [h]; exact Bool.false_ne_true)]
  cases hkind : single? c with
  | some kind =>
    intro he
    dsimp only at he
    exact single?_ne_gap c (by rw [hkind, he])
  | none =>
    dsimp only
    split_ifs <;> exact nofun

lemma firstKind_ne_gap {cs : List Char} (h : Solid cs) : firstKind cs ≠ some .gap := by
  cases cs with
  | nil => simp [firstKind]
  | cons c rest =>
    simp only [firstKind, List.head?_cons, Option.map_some, Ne, Option.some.injEq]
    exact kindOf_ne_gap (h c rfl)

/-- What stands in front of a token other than a gap does not matter for it. -/
lemma dropGaps_cons_of_ne {before : Option TokenKind} {t : Token} {ts : List Token}
    (h : t.kind ≠ .gap) : dropGaps before (t :: ts) = t :: dropGaps (some t.kind) ts := by
  simp [dropGaps, h]

lemma dropGaps_of_solid {cs : List Char} (h : Solid cs) (before before' : Option TokenKind)
    (position : Nat) :
    dropGaps before (tokensFrom position cs) = dropGaps before' (tokensFrom position cs) := by
  have hkind := firstKind_ne_gap h
  rw [← nextKind_tokensFrom position] at hkind
  cases hts : tokensFrom position cs with
  | nil => rfl
  | cons t ts =>
    have ht : t.kind ≠ .gap := by
      intro he
      rw [hts] at hkind
      exact hkind (by simp [nextKind, he])
    rw [dropGaps_cons_of_ne ht, dropGaps_cons_of_ne ht]

lemma lexed_of_solid {cs : List Char} (h : Solid cs) {before before' : Option TokenKind}
    {ts : List Token} (hts : Lexed before cs ts) : Lexed before' cs ts := by
  obtain ⟨position, rfl⟩ := hts
  exact ⟨position, dropGaps_of_solid h _ _ _⟩

lemma nextKind_of_lexed {cs : List Char} (h : Solid cs) {before : Option TokenKind}
    {ts : List Token} (hts : Lexed before cs ts) : nextKind ts = firstKind cs := by
  obtain ⟨position, rfl⟩ := hts
  have hkind := firstKind_ne_gap h
  rw [← nextKind_tokensFrom position] at hkind ⊢
  cases hraw : tokensFrom position cs with
  | nil => rfl
  | cons t ts =>
    have ht : t.kind ≠ .gap := by
      intro he
      rw [hraw] at hkind
      exact hkind (by simp [nextKind, he])
    rw [dropGaps_cons_of_ne ht]
    simp [nextKind]

lemma solid_sign {c : Char} (hc : c ∈ signs) (rest : List Char) : Solid (c :: rest) := by
  intro d hd
  obtain rfl : c = d := by simpa using hd
  simp only [signs, List.mem_cons, List.not_mem_nil, or_false] at hc
  rcases hc with rfl | rfl | rfl | rfl | rfl <;> rfl

lemma lexed_sign {c : Char} (hc : c ∈ signs) {before : Option TokenKind} {rest : List Char}
    {ts : List Token} (hts : Lexed before (c :: rest) ts) :
    ∃ t ts', ts = t :: ts' ∧ t.kind = kindOf c ∧ Lexed (some (kindOf c)) rest ts' := by
  obtain ⟨position, rfl⟩ := hts
  have hkind : kindOf c ≠ .gap := kindOf_ne_gap (solid_sign hc rest c rfl)
  rw [tokensFrom_sign hc, dropGaps_cons_of_ne hkind]
  exact ⟨_, _, rfl, rfl, position + 1, rfl⟩

lemma lexed_tag {run rest : List Char} (hne : run ≠ [])
    (hrun : ∀ c ∈ run, Tag.isForbidden c = false) (hminus : run.head? ≠ some '-')
    (hrest : ∀ c ∈ rest.head?, Tag.isForbidden c = true) {before : Option TokenKind}
    {ts : List Token} (hts : Lexed before (run ++ rest) ts) :
    ∃ t ts', ts = t :: ts' ∧ t.kind = .tag ∧ t.text = run ∧ Lexed (some .tag) rest ts' := by
  obtain ⟨position, rfl⟩ := hts
  rw [tokensFrom_tag hne hrun hminus hrest, dropGaps_cons_of_ne (by exact nofun)]
  exact ⟨_, _, rfl, rfl, rfl, position + run.length, rfl⟩

/-- Whitespace beside a sign that it means nothing to leaves no token. -/
lemma lexed_blank_dropped {ws rest : List Char} (hws : Blank ws) (hrest : Solid rest)
    {before : Option TokenKind} (h : bindsRight before = true ∨ bindsLeft (firstKind rest) = true)
    {ts : List Token} (hts : Lexed before (ws ++ rest) ts) : Lexed none rest ts := by
  obtain ⟨position, rfl⟩ := hts
  by_cases hne : ws = []
  · subst hne
    exact lexed_of_solid hrest ⟨position, rfl⟩
  · refine lexed_of_solid hrest (?_ : Lexed (some .gap) rest _)
    refine ⟨position + ws.length, ?_⟩
    rw [tokensFrom_gap hne hws hrest, dropGaps, if_pos]
    refine ⟨rfl, ?_⟩
    have hkind := nextKind_tokensFrom (position + ws.length) rest
    rw [nextKind] at hkind
    rw [hkind]
    exact h

/-- Other whitespace is a token. -/
lemma lexed_gap_kept {ws rest : List Char} (hne : ws ≠ []) (hws : Blank ws) (hrest : Solid rest)
    {before : Option TokenKind} (hbefore : bindsRight before = false)
    (hafter : bindsLeft (firstKind rest) = false) {ts : List Token}
    (hts : Lexed before (ws ++ rest) ts) :
    ∃ t ts', ts = t :: ts' ∧ t.kind = .gap ∧ Lexed none rest ts' := by
  obtain ⟨position, rfl⟩ := hts
  have hkind := nextKind_tokensFrom (position + ws.length) rest
  rw [nextKind] at hkind
  rw [tokensFrom_gap hne hws hrest, dropGaps, if_neg (by rw [hkind, hbefore, hafter]; simp)]
  exact ⟨_, _, rfl, rfl, lexed_of_solid hrest ⟨position + ws.length, rfl⟩⟩

/-- Every text is whitespace and then a text that does not begin with any. -/
lemma exists_blank_solid (cs : List Char) :
    ∃ ws body, cs = ws ++ body ∧ Blank ws ∧ Solid body := by
  refine ⟨cs.takeWhile Text.isBlank, cs.dropWhile Text.isBlank,
    List.takeWhile_append_dropWhile.symm, ?_, ?_⟩
  · intro c hc
    exact List.mem_takeWhile_imp hc
  · intro c hc
    have hnot := List.head?_dropWhile_not Text.isBlank cs
    rw [Option.mem_def.mp hc] at hnot
    simpa using hnot

/-- A text that does not begin with whitespace is empty or begins with a sign or with a run of tag
characters. -/
lemma solid_cases {cs : List Char} (h : Solid cs) :
    cs = [] ∨ (∃ c rest, cs = c :: rest ∧ c ∈ signs) ∨
      ∃ run rest, cs = run ++ rest ∧ run ≠ [] ∧ (∀ c ∈ run, Tag.isForbidden c = false) ∧
        run.head? ≠ some '-' ∧ ∀ c ∈ rest.head?, Tag.isForbidden c = true := by
  cases cs with
  | nil => exact .inl rfl
  | cons c rest =>
    by_cases hc : c ∈ signs
    · exact .inr (.inl ⟨c, rest, rfl, hc⟩)
    · have hallowed : Tag.isForbidden c = false := by
        simp only [signs, List.mem_cons, List.not_mem_nil, or_false, not_or] at hc
        simp [Tag.isForbidden, h c rfl, Tag.isReserved, Tag.reserved, hc]
      refine .inr (.inr ⟨c :: rest.takeWhile (fun d => !Tag.isForbidden d),
        rest.dropWhile (fun d => !Tag.isForbidden d), ?_, nofun, ?_, ?_, ?_⟩)
      · rw [List.cons_append, List.takeWhile_append_dropWhile]
      · intro d hd
        rcases List.mem_cons.mp hd with rfl | hd
        · exact hallowed
        · simpa using List.mem_takeWhile_imp hd
      · intro he
        have hcm : c = '-' := by simpa using he
        exact hc (by simp [hcm, signs])
      · intro d hd
        have hnot := List.head?_dropWhile_not (fun d => !Tag.isForbidden d) rest
        rw [Option.mem_def.mp hd] at hnot
        simpa using hnot

/-- The tokens of a text behind a factor, where whitespace in front of it still counts. -/
def LexedAfter (cs : List Char) (ts : List Token) : Prop :=
  ∃ before, bindsRight before = false ∧ Lexed before cs ts

/-- The whitespace in front of a text behind a factor: none that matters, or a token. -/
lemma LexedAfter.split {cs : List Char} {ts : List Token} (h : LexedAfter cs ts) :
    ∃ ws body, cs = ws ++ body ∧ Blank ws ∧ Solid body ∧
      (((ws = [] ∨ bindsLeft (firstKind body) = true) ∧ Lexed none body ts) ∨
        (ws ≠ [] ∧ bindsLeft (firstKind body) = false ∧
          ∃ t ts', ts = t :: ts' ∧ t.kind = .gap ∧ Lexed none body ts')) := by
  obtain ⟨before, hbefore, hts⟩ := h
  obtain ⟨ws, body, rfl, hws, hbody⟩ := exists_blank_solid cs
  refine ⟨ws, body, rfl, hws, hbody, ?_⟩
  by_cases hne : ws = []
  · subst hne
    exact .inl ⟨.inl rfl, lexed_of_solid hbody hts⟩
  · cases hleft : bindsLeft (firstKind body) with
    | true => exact .inl ⟨.inr rfl, lexed_blank_dropped hws hbody (.inr hleft) hts⟩
    | false => exact .inr ⟨hne, rfl, lexed_gap_kept hne hws hbody hbefore hleft hts⟩

/-- The text of a token that is a sign with no meaning for whitespace before it. -/
lemma LexedAfter.sign {cs : List Char} {t : Token} {ts : List Token} (h : LexedAfter cs (t :: ts))
    {c : Char} (hc : c ∈ signs) (ht : t.kind = kindOf c) :
    ∃ ws rest, cs = ws ++ c :: rest ∧ Blank ws ∧ Lexed (some (kindOf c)) rest ts := by
  obtain ⟨ws, body, rfl, hws, hbody, ⟨_, hts⟩ | ⟨_, _, u, us, hu, hgap, _⟩⟩ := h.split
  · rcases solid_cases hbody with rfl | ⟨d, rest, rfl, hd⟩ | ⟨run, rest, rfl, hne, hrun, hm, hrest⟩
    · simp at hts
    · obtain ⟨u, us, hu, hkind, hus⟩ := lexed_sign hd hts
      obtain ⟨rfl, rfl⟩ := List.cons.inj hu
      have hdc : d = c := by
        rw [ht] at hkind
        simp only [signs, List.mem_cons, List.not_mem_nil, or_false] at hc hd
        rcases hc with rfl | rfl | rfl | rfl | rfl <;>
          rcases hd with rfl | rfl | rfl | rfl | rfl <;> first | rfl | cases hkind
      subst hdc
      exact ⟨ws, rest, rfl, hws, hus⟩
    · obtain ⟨u, us, hu, hkind, _⟩ := lexed_tag hne hrun hm hrest hts
      obtain ⟨rfl, rfl⟩ := List.cons.inj hu
      rw [ht] at hkind
      simp only [signs, List.mem_cons, List.not_mem_nil, or_false] at hc
      rcases hc with rfl | rfl | rfl | rfl | rfl <;> cases hkind
  · obtain ⟨rfl, rfl⟩ := List.cons.inj hu
    rw [ht] at hgap
    exact absurd hgap (kindOf_ne_gap (solid_sign hc [] c rfl))

/-- No whitespace stands after a minus sign that a factor follows. -/
lemma LexedAfter.solid_of_endsTerm {cs : List Char} {ts : List Token} (h : LexedAfter cs ts)
    (hend : endsTerm (nextKind ts) = false) : Solid cs ∧ Lexed none cs ts := by
  obtain ⟨ws, body, rfl, hws, hbody, ⟨hdropped, hts⟩ |
    ⟨_, _, t, ts', rfl, hgap, _⟩⟩ := h.split
  · rcases hdropped with rfl | hleft
    · exact ⟨hbody, hts⟩
    · rw [nextKind_of_lexed hbody hts] at hend
      cases hkind : firstKind body with
      | none => simp [hkind, endsTerm] at hend
      | some kind => cases kind <;> simp_all [endsTerm, bindsLeft]
  · simp [nextKind, hgap, endsTerm] at hend

end TaggedSuite.Filter
