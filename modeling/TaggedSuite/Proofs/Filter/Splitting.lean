import Mathlib.Data.List.Chain
import TaggedSuite.Proofs.Filter.Tokens

/-!
# Splitting loses nothing

The tokens of a text are the text cut into pieces, each of which knows its kind and its place. Two
runs of the same kind are never cut apart, so some kinds do not stand next to each other. Of these
tokens only whitespace is left out, and whether it is left out depends on its two neighbours.
-/
namespace TaggedSuite.Filter

variable {kind : TokenKind} {text rest cs : List Char} {t : Token} {front back ts : List Token}
  {before : Option TokenKind}

/-! ### The pieces of a text -/

/-- The kinds that stand next to each other in a text: a run of whitespace is as long as possible,
and so is a tag, in which a minus sign may stand. -/
def MayFollow (first second : TokenKind) : Prop :=
  (first = .gap → second ≠ .gap) ∧ (first = .tag → second ≠ .tag ∧ second ≠ .minus)

/-- The list is the text cut into tokens. -/
structure Splits (cs : List Char) (ts : List Token) : Prop where
  texts : ts.flatMap (·.text) = cs
  /-- In front of a token stand as many characters as its position says, and its text is of its kind
  and as long as possible. -/
  placed : ∀ {front t back}, ts = front ++ t :: back →
    t.position = (front.flatMap (·.text)).length ∧ IsToken t.kind t.text (back.flatMap (·.text))
  nonempty : ∀ t ∈ ts, t.text ≠ []
  adjacent : ts.IsChain fun t u => MayFollow t.kind u.kind
  /-- Every round of the scan takes a character at least. -/
  rounds : ts.length ≤ cs.length

/-- The character after a tag is whitespace or a sign other than minus. -/
lemma kindOf_of_isForbidden {c : Char} (h : Tag.isForbidden c = true) :
    kindOf c ≠ .tag ∧ kindOf c ≠ .minus := by
  rw [Tag.isForbidden, Bool.or_eq_true] at h
  rcases h with hblank | hreserved
  · simp [kindOf, hblank]
  · simp only [Tag.isReserved, Tag.reserved, List.contains_eq_mem, List.mem_cons, List.not_mem_nil,
      or_false, decide_eq_true_eq] at hreserved
    rcases hreserved with rfl | rfl | rfl | rfl <;> decide

lemma IsToken.mayFollow (h : IsToken kind text rest) :
    ∀ next ∈ firstKind rest, MayFollow kind next := by
  intro next hnext
  constructor
  · rintro hkind rfl
    exact firstKind_ne_gap (h.solid hkind) hnext
  · intro hkind
    obtain ⟨c, hc, rfl⟩ := Option.map_eq_some_iff.1 hnext
    exact kindOf_of_isForbidden ((h.isRun hkind).maximal c hc)

/-- Each token stands behind the texts of those in front, and it goes as far as it can. -/
lemma placed_tokensFrom (cs : List Char) : ∀ {position front t back},
    tokensFrom position cs = front ++ t :: back →
      t.position = position + (front.flatMap (·.text)).length ∧
        IsToken t.kind t.text (back.flatMap (·.text)) := by
  induction cs using token_induction with
  | nil =>
    intro position front t back h
    simp [tokensFrom] at h
  | @token kind text rest htoken ih =>
    intro position front t back h
    rw [htoken.tokensFrom] at h
    cases front with
    | nil =>
      obtain ⟨rfl, rfl⟩ := List.cons.inj h
      refine ⟨rfl, ?_⟩
      rw [flatMap_text_tokensFrom]
      exact htoken
    | cons first front =>
      obtain ⟨rfl, hrest⟩ := List.cons.inj h
      obtain ⟨hposition, hback⟩ := ih hrest
      refine ⟨?_, hback⟩
      rw [hposition, List.flatMap_cons, List.length_append, Nat.add_assoc]

lemma isChain_tokensFrom (cs : List Char) : ∀ position,
    (tokensFrom position cs).IsChain fun t u => MayFollow t.kind u.kind := by
  induction cs using token_induction with
  | nil =>
    intro position
    simp [tokensFrom]
  | @token kind text rest htoken ih =>
    intro position
    rw [htoken.tokensFrom, List.isChain_cons]
    refine ⟨fun u hu => htoken.mayFollow u.kind ?_, ih _⟩
    rw [← nextKind_tokensFrom, nextKind, hu]
    rfl

lemma length_le_of_nonempty (h : ∀ t ∈ ts, t.text ≠ []) :
    ts.length ≤ (ts.flatMap (·.text)).length := by
  induction ts with
  | nil => exact le_rfl
  | cons t ts ih =>
    obtain ⟨ht, hts⟩ := List.forall_mem_cons.1 h
    have hpos := List.length_pos_iff.2 ht
    have hrest := ih hts
    rw [List.flatMap_cons, List.length_append, List.length_cons]
    omega

theorem splits_rawTokens (cs : List Char) : Splits cs (rawTokens cs) := by
  have htexts : (rawTokens cs).flatMap (·.text) = cs := flatMap_text_tokensFrom cs 0
  have hnonempty : ∀ t ∈ rawTokens cs, t.text ≠ [] := by
    intro t ht
    obtain ⟨front, back, h⟩ := List.append_of_mem ht
    exact (placed_tokensFrom cs h).2.nonempty
  refine ⟨htexts, fun h => ?_, hnonempty, isChain_tokensFrom cs 0, ?_⟩
  · obtain ⟨hposition, htoken⟩ := placed_tokensFrom cs h
    exact ⟨by rw [hposition, Nat.zero_add], htoken⟩
  · have hrounds := length_le_of_nonempty hnonempty
    rwa [htexts] at hrounds

namespace Splits

lemma position_lt {u : Token} {middle : List Token} (h : Splits cs ts)
    (hts : ts = front ++ t :: (middle ++ u :: back)) : t.position < u.position := by
  have hlater : ts = (front ++ t :: middle) ++ u :: back := by
    rw [hts, List.append_assoc]
    rfl
  have hpos := List.length_pos_iff.2 (h.nonempty t (by rw [hts]; simp))
  rw [(h.placed hts).1, (h.placed hlater).1, List.flatMap_append, List.flatMap_cons,
    List.length_append, List.length_append]
  omega

/-- No token stands in two places. -/
lemma not_mem (h : Splits cs ts) (hts : ts = front ++ t :: back) : t ∉ front ∧ t ∉ back := by
  constructor
  · intro ht
    obtain ⟨start, middle, rfl⟩ := List.append_of_mem ht
    rw [List.append_assoc, List.cons_append] at hts
    exact lt_irrefl _ (h.position_lt hts)
  · intro ht
    obtain ⟨middle, stop, rfl⟩ := List.append_of_mem ht
    exact lt_irrefl _ (h.position_lt hts)

end Splits

/-! ### The tokens that matter -/

/-- The kind of the token directly in front of what follows. -/
def lastKind (ts : List Token) : Option TokenKind := ts.getLast?.map (·.kind)

/-- Whitespace can mean something behind the token. -/
def AllowsGapAfter (left : Option TokenKind) : Prop :=
  left = some .tag ∨ left = some .closing ∨ left = some .minus

/-- Whitespace can mean something in front of the token. -/
def AllowsGapBefore (right : Option TokenKind) : Prop :=
  right = some .tag ∨ right = some .minus ∨ right = some .opening

/-- The second list is the first one without the whitespace that means nothing. -/
structure Trims (raw kept : List Token) : Prop where
  sublist : kept.Sublist raw
  others : kept.filter (·.kind != .gap) = raw.filter (·.kind != .gap)
  /-- Whitespace is kept if it means something between its neighbours. -/
  gap_iff : ∀ {front t back}, raw = front ++ t :: back → t.kind = .gap →
    (t ∈ kept ↔ AllowsGapAfter (lastKind front) ∧ AllowsGapBefore (nextKind back))
  /-- The neighbours of whitespace that is kept are still there. -/
  around : ∀ {front t back}, kept = front ++ t :: back → t.kind = .gap →
    AllowsGapAfter (lastKind front) ∧ AllowsGapBefore (nextKind back)
  /-- Whitespace behind a minus sign is left out in front of a sign or the end alone. -/
  after_minus : ∀ {front m t back}, raw = front ++ m :: t :: back → m.kind = .minus →
    t.kind = .gap → (t ∉ kept ↔ nextKind back = some .plus ∨ nextKind back = some .comma ∨
      nextKind back = some .closing ∨ nextKind back = none)

lemma allowsGapAfter_iff {left : Option TokenKind} :
    AllowsGapAfter left ↔ bindsRight left = false ∧ left ≠ some .gap := by
  unfold AllowsGapAfter
  cases left with
  | none => simp [bindsRight]
  | some kind => cases kind <;> simp [bindsRight]

lemma allowsGapBefore_iff {right : Option TokenKind} :
    AllowsGapBefore right ↔ bindsLeft right = false ∧ right ≠ some .gap := by
  unfold AllowsGapBefore
  cases right with
  | none => simp [bindsLeft]
  | some kind => cases kind <;> simp [bindsLeft]

lemma not_allowsGapBefore_iff {right : Option TokenKind} (h : right ≠ some .gap) :
    ¬AllowsGapBefore right ↔
      right = some .plus ∨ right = some .comma ∨ right = some .closing ∨ right = none := by
  unfold AllowsGapBefore
  cases right with
  | none => simp
  | some kind => cases kind <;> simp at h ⊢

lemma allowsGapBefore_of_endsTerm {right : Option TokenKind} (h : endsTerm right = false) :
    AllowsGapBefore right := by
  unfold AllowsGapBefore
  cases right with
  | none => simp [endsTerm] at h
  | some kind => cases kind <;> simp [endsTerm] at h ⊢

@[simp] lemma lastKind_cons (t : Token) (ts : List Token) :
    lastKind (t :: ts) = (lastKind ts).or (some t.kind) := by
  rw [lastKind, lastKind, List.getLast?_cons]
  cases ts.getLast? <;> rfl

/-- A token is dropped if it is a gap next to one that binds on that side. -/
lemma mem_dropGaps (hfront : t ∉ front) (hback : t ∉ back) :
    t ∈ dropGaps before (front ++ t :: back) ↔ ¬(t.kind = .gap ∧
      (bindsRight ((lastKind front).or before) = true ∨ bindsLeft (nextKind back) = true)) := by
  induction front generalizing before with
  | nil =>
    have hnot : t ∉ dropGaps (some t.kind) back := fun h => hback ((dropGaps_sublist _ _).mem h)
    rw [List.nil_append, dropGaps, nextKind]
    split_ifs with hdrop
    · exact iff_of_false hnot (not_not_intro hdrop)
    · exact iff_of_true List.mem_cons_self hdrop
  | cons u front ih =>
    obtain ⟨hne, hfront⟩ := not_or.1 (mt List.mem_cons.2 hfront)
    have hor : ((lastKind (u :: front)).or before) = (lastKind front).or (some u.kind) := by
      rw [lastKind_cons]
      cases lastKind front <;> rfl
    rw [List.cons_append, dropGaps, hor, ← ih hfront]
    split_ifs
    · exact Iff.rfl
    · exact ⟨fun h => (List.mem_cons.1 h).resolve_left hne, List.mem_cons_of_mem u⟩

lemma filter_dropGaps (before : Option TokenKind) (ts : List Token) :
    (dropGaps before ts).filter (·.kind != .gap) = ts.filter (·.kind != .gap) := by
  induction ts generalizing before with
  | nil => rfl
  | cons t ts ih =>
    rw [dropGaps]
    split_ifs with hdrop
    · rw [ih, List.filter_cons_of_neg (by simp [hdrop.1])]
    · rw [List.filter_cons, List.filter_cons, ih]

/-- A gap that is left binds nothing on either side. -/
lemma Spaced.around (h : Spaced before (front ++ t :: back)) (hgap : t.kind = .gap) :
    bindsRight ((lastKind front).or before) = false ∧ endsTerm (nextKind back) = false := by
  induction front generalizing before with
  | nil => exact h.1 hgap
  | cons u front ih =>
    have hrest := ih h.2
    rw [lastKind_cons]
    cases hlast : lastKind front with
    | none => rwa [hlast] at hrest
    | some kind => rwa [hlast] at hrest

/-- No gap is left in front of another one. -/
lemma Spaced.lastKind_ne_gap (h : Spaced none (front ++ t :: back)) (hgap : t.kind = .gap) :
    lastKind front ≠ some .gap := by
  intro hlast
  obtain ⟨u, hu, hkind⟩ := Option.map_eq_some_iff.1 hlast
  obtain ⟨start, rfl⟩ := List.getLast?_eq_some_iff.1 hu
  rw [List.append_assoc, List.singleton_append] at h
  have hends := (h.around hkind).2
  rw [nextKind, List.head?_cons, Option.map_some, hgap] at hends
  cases hends

/-- Two runs of whitespace are not cut apart. -/
lemma Splits.neighbours_ne_gap (h : Splits cs ts) (hts : ts = front ++ t :: back)
    (hgap : t.kind = .gap) : lastKind front ≠ some .gap ∧ nextKind back ≠ some .gap := by
  have hchain := h.adjacent
  rw [hts, List.isChain_append, List.isChain_cons] at hchain
  obtain ⟨-, ⟨hnext, -⟩, hlast⟩ := hchain
  constructor
  · intro hkind
    obtain ⟨u, hu, hu'⟩ := Option.map_eq_some_iff.1 hkind
    exact (hlast u hu t rfl).1 hu' hgap
  · intro hkind
    obtain ⟨u, hu, hu'⟩ := Option.map_eq_some_iff.1 hkind
    exact (hnext u hu).1 hgap hu'

lemma mem_tokens_iff (h : rawTokens cs = front ++ t :: back) (hgap : t.kind = .gap) :
    t ∈ tokens cs ↔ AllowsGapAfter (lastKind front) ∧ AllowsGapBefore (nextKind back) := by
  have hsplits := splits_rawTokens cs
  obtain ⟨hfront, hback⟩ := hsplits.not_mem h
  obtain ⟨hleft, hright⟩ := hsplits.neighbours_ne_gap h hgap
  rw [tokens, h, mem_dropGaps hfront hback, Option.or_none, not_and, imp_iff_right hgap, not_or,
    Bool.not_eq_true, Bool.not_eq_true, allowsGapAfter_iff, allowsGapBefore_iff,
    and_iff_left hleft, and_iff_left hright]

theorem trims_tokens (cs : List Char) : Trims (rawTokens cs) (tokens cs) where
  sublist := dropGaps_sublist none _
  others := filter_dropGaps none _
  gap_iff := mem_tokens_iff
  around {front t back} h hgap := by
    have hspaced := spaced_tokens cs
    rw [h] at hspaced
    obtain ⟨hleft, hright⟩ := hspaced.around hgap
    rw [Option.or_none] at hleft
    exact ⟨allowsGapAfter_iff.2 ⟨hleft, hspaced.lastKind_ne_gap hgap⟩,
      allowsGapBefore_of_endsTerm hright⟩
  after_minus {front m t back} h hminus hgap := by
    have hraw : rawTokens cs = (front ++ [m]) ++ t :: back := by
      rw [h, List.append_assoc]
      rfl
    have hlast : lastKind (front ++ [m]) = some .minus := by
      rw [lastKind, List.getLast?_concat, Option.map_some, hminus]
    have hright := ((splits_rawTokens cs).neighbours_ne_gap hraw hgap).2
    rw [mem_tokens_iff hraw hgap, hlast, and_iff_right (.inr (.inr rfl)),
      not_allowsGapBefore_iff hright]

/-- The tokens of a text are the text cut into pieces: their texts make it up, each stands where its
position says, none is empty, and no two runs of whitespace, no two tags and no tag and a minus sign
are neighbours. Only whitespace is left out of them. It is kept just between a tag, a closing
parenthesis or a minus sign on its left and a tag, a minus sign or an opening parenthesis on its
right; so behind a minus sign it is kept unless a sign or the end follows. -/
theorem tokens_lossless (cs : List Char) :
    Splits cs (rawTokens cs) ∧ Trims (rawTokens cs) (tokens cs) :=
  ⟨splits_rawTokens cs, trims_tokens cs⟩

example : (tokens "@a - ,( -b )".toList).map (·.kind) =
    [.tag, .gap, .minus, .comma, .opening, .minus, .tag, .closing] := by cbv

end TaggedSuite.Filter
