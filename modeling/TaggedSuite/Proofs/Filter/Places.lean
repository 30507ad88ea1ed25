import TaggedSuite.Proofs.Filter.Printing

/-!
# Phrases in other places

A phrase of the grammar does not depend on what stands behind it, as long as a run of tag characters
ends there. Its own characters open and close their parentheses in pairs. So the parenthesis that
closes a group is determined, and a group means the same wherever it stands.
-/
namespace TaggedSuite.Filter

/-- The number of parentheses that are open behind the text when so many are open in front of it,
unless one is closed that was not opened. -/
def openAfter : Nat → List Char → Option Nat
  | d, [] => some d
  | d, '(' :: cs => openAfter (d + 1) cs
  | 0, ')' :: _ => none
  | d + 1, ')' :: cs => openAfter d cs
  | d, _ :: cs => openAfter d cs

/-- The parentheses of the text belong together in pairs. -/
def Balanced (cs : List Char) : Prop := ∀ d, openAfter d cs = some d

section
variable {cs ds rest rest' : List Char}

lemma openAfter_append (d : Nat) (cs ds : List Char) :
    openAfter d (cs ++ ds) = (openAfter d cs).bind fun d => openAfter d ds := by
  induction d, cs using openAfter.induct with
  | case1 d => rfl
  | case2 d cs ih => simpa [openAfter] using ih
  | case3 cs => rfl
  | case4 d cs ih => simpa [openAfter] using ih
  | case5 d c cs hopening hzero hclosing ih => simpa [openAfter] using ih

lemma balanced_nil : Balanced [] := fun _ => rfl

lemma Balanced.append (h : Balanced cs) (h' : Balanced ds) : Balanced (cs ++ ds) := by
  intro d
  rw [openAfter_append, h d]
  exact h' d

lemma Balanced.group (h : Balanced cs) : Balanced ('(' :: cs ++ [')']) := by
  intro d
  rw [List.cons_append, openAfter, openAfter_append, h (d + 1)]
  rfl

lemma Balanced.cons {c : Char} (hopening : c ≠ '(') (hclosing : c ≠ ')') (h : Balanced cs) :
    Balanced (c :: cs) := by
  intro d
  rw [openAfter] <;> simp_all [Balanced]

lemma balanced_of_plain (h : ∀ c ∈ cs, c ≠ '(' ∧ c ≠ ')') : Balanced cs := by
  induction cs with
  | nil => exact balanced_nil
  | cons c cs ih =>
    obtain ⟨hopening, hclosing⟩ := h c List.mem_cons_self
    exact .cons hopening hclosing (ih fun d hd => h d (List.mem_cons_of_mem _ hd))

lemma balanced_blank (h : Blank cs) : Balanced cs := by
  refine balanced_of_plain fun c hc => ⟨?_, ?_⟩
  · rintro rfl
    exact h.not_mem (by decide) hc
  · rintro rfl
    exact h.not_mem (by decide) hc

/-- A closing parenthesis without a partner cannot stand in a balanced text. -/
lemma not_balanced_of_closing (h : Balanced cs) : ¬ Balanced (cs ++ ')' :: ds) := by
  intro hwhole
  have hnone := hwhole 0
  rw [openAfter_append, h 0] at hnone
  cases hnone

/-- The first closing parenthesis without a partner is determined. -/
lemma Balanced.unique (h : Balanced cs) (h' : Balanced ds)
    (heq : cs ++ ')' :: rest = ds ++ ')' :: rest') : cs = ds ∧ rest = rest' := by
  rcases List.append_eq_append_iff.mp heq with ⟨between, rfl, hrest⟩ | ⟨between, rfl, hrest⟩
  · cases between with
    | nil => simpa using hrest
    | cons c between =>
      obtain ⟨rfl, rfl⟩ := List.cons.inj hrest
      exact absurd h' (not_balanced_of_closing h)
  · cases between with
    | nil => simpa [eq_comm] using hrest
    | cons c between =>
      obtain ⟨rfl, rfl⟩ := List.cons.inj hrest
      exact absurd h (not_balanced_of_closing h')

end

/-! ### Moving a phrase -/

lemma Blank.endsTag {ws rest : List Char} (h : Blank ws) (hrest : EndsTag rest) :
    EndsTag (ws ++ rest) := by
  cases ws with
  | nil => exact hrest
  | cons c ws =>
    refine endsTag_cons ?_ _
    rw [Tag.isForbidden, h c List.mem_cons_self]
    rfl

lemma IsSeparator.endsTag {sep : List Char} (h : IsSeparator sep) (rest : List Char) :
    EndsTag (sep ++ rest) := by
  cases h with
  | gap hne blank =>
    cases sep with
    | nil => contradiction
    | cons c ws =>
      refine endsTag_cons ?_ _
      rw [Tag.isForbidden, blank c List.mem_cons_self]
      rfl
  | comma blank blank' =>
    rw [List.append_assoc, List.cons_append]
    exact blank.endsTag (endsTag_cons (by decide) _)

lemma MoreFactors.endsTag {cs rest : List Char} {fs : Factors} (h : MoreFactors cs rest fs)
    (hrest : EndsTag rest) : EndsTag cs := by
  cases h with
  | nil => exact hrest
  | plus blank blank' first others =>
    rw [List.append_assoc, List.cons_append]
    exact blank.endsTag (endsTag_cons (by decide) _)

lemma MoreTerms.endsTag {cs rest : List Char} {ts : List Factors} (h : MoreTerms cs rest ts)
    (hrest : EndsTag rest) : EndsTag cs := by
  cases h with
  | nil => exact hrest
  | cons separator first others => exact separator.endsTag _

lemma IsSeparator.balanced {sep : List Char} (h : IsSeparator sep) : Balanced sep := by
  cases h with
  | gap _ blank => exact balanced_blank blank
  | comma blank blank' =>
    exact (balanced_blank blank).append ((balanced_blank blank').cons (by decide) (by decide))

/-- A phrase with a text of its own, which opens and closes its parentheses in pairs and is the same
phrase in front of any text that ends a run of tag characters. -/
def Moves (phrase : List Char → List Char → Prop) (cs rest : List Char) : Prop :=
  ∃ own, cs = own ++ rest ∧ Balanced own ∧ ∀ rest', EndsTag rest' → phrase (own ++ rest') rest'

section
variable {cs mid rest : List Char} {negated : Bool} {f : Filter}

lemma moves_tag {run : List Char} (isRun : TagRun run rest) :
    Moves (IsAtom · · (.tag ⟨String.ofList (Tag.normalChars run)⟩)) (run ++ rest) rest := by
  refine ⟨run, rfl, balanced_of_plain fun c hc => ⟨?_, ?_⟩, fun rest' hrest' => ?_⟩
  · rintro rfl
    exact isRun.not_mem (by decide) hc
  · rintro rfl
    exact isRun.not_mem (by decide) hc
  · exact .tag ⟨isRun.allowed, isRun.noMinus, isRun.named, hrest'⟩

lemma moves_group (inner : Moves (IsFilter · · f) cs (')' :: rest)) :
    Moves (IsAtom · · f) ('(' :: cs) rest := by
  obtain ⟨own, rfl, hbalanced, hown⟩ := inner
  refine ⟨'(' :: own ++ [')'], by simp, hbalanced.group, fun rest' _ => ?_⟩
  rw [List.append_assoc, List.cons_append]
  exact .group (hown _ (endsTag_cons (by decide) _))

lemma moves_minus (operand : Moves (IsFactor · · negated f) cs rest) :
    Moves (IsFactor · · true (.not f)) ('-' :: cs) rest := by
  obtain ⟨own, rfl, hbalanced, hown⟩ := operand
  exact ⟨'-' :: own, rfl, hbalanced.cons (by decide) (by decide),
    fun rest' hrest' => .minus (hown rest' hrest')⟩

lemma moves_furtherFactor {ws ws' : List Char} {fs : Factors} (blank : Blank ws)
    (blank' : Blank ws') (first : Moves (IsFactor · · negated f) cs mid)
    (others : Moves (MoreFactors · · fs) mid rest) :
    Moves (MoreFactors · · ((negated, f) :: fs)) (ws ++ '+' :: ws' ++ cs) rest := by
  obtain ⟨own, rfl, hbalanced, hown⟩ := first
  obtain ⟨own', rfl, hbalanced', hown'⟩ := others
  refine ⟨ws ++ '+' :: ws' ++ own ++ own', by simp, ?_, fun rest' hrest' => ?_⟩
  · have hsign := (balanced_blank blank').cons (c := '+') (by decide) (by decide)
    exact (((balanced_blank blank).append hsign).append hbalanced).append hbalanced'
  · have hmore := hown' rest' hrest'
    rw [List.append_assoc _ own']
    rw [List.append_assoc _ own]
    exact .plus blank blank' (hown _ (hmore.endsTag hrest')) hmore

lemma moves_term {fs : Factors} (first : Moves (IsFactor · · negated f) cs mid)
    (others : Moves (MoreFactors · · fs) mid rest) :
    Moves (IsTerm · · ((negated, f) :: fs)) cs rest := by
  obtain ⟨own, rfl, hbalanced, hown⟩ := first
  obtain ⟨own', rfl, hbalanced', hown'⟩ := others
  refine ⟨own ++ own', by simp, hbalanced.append hbalanced', fun rest' hrest' => ?_⟩
  have hmore := hown' rest' hrest'
  rw [List.append_assoc]
  exact .mk (hown _ (hmore.endsTag hrest')) hmore

lemma moves_furtherTerm {sep : List Char} {t : Factors} {ts : List Factors}
    (separator : IsSeparator sep) (first : Moves (IsTerm · · t) cs mid)
    (others : Moves (MoreTerms · · ts) mid rest) :
    Moves (MoreTerms · · (t :: ts)) (sep ++ cs) rest := by
  obtain ⟨own, rfl, hbalanced, hown⟩ := first
  obtain ⟨own', rfl, hbalanced', hown'⟩ := others
  refine ⟨sep ++ own ++ own', by simp, (separator.balanced.append hbalanced).append hbalanced',
    fun rest' hrest' => ?_⟩
  have hmore := hown' rest' hrest'
  rw [List.append_assoc, List.append_assoc]
  exact .cons separator (hown _ (hmore.endsTag hrest')) hmore

lemma moves_filter {ws ws' : List Char} {t : Factors} {ts : List Factors} (blank : Blank ws)
    (blank' : Blank ws') (first : Moves (IsTerm · · t) cs mid)
    (others : Moves (MoreTerms · · ts) mid (ws' ++ rest)) (means : meaning (t :: ts) = some f) :
    Moves (IsFilter · · f) (ws ++ cs) rest := by
  obtain ⟨own, rfl, hbalanced, hown⟩ := first
  obtain ⟨own', rfl, hbalanced', hown'⟩ := others
  refine ⟨ws ++ own ++ own' ++ ws', by simp, ?_, fun rest' hrest' => ?_⟩
  · exact (((balanced_blank blank).append hbalanced).append hbalanced').append
      (balanced_blank blank')
  · have hend := blank'.endsTag hrest'
    have hmore := hown' _ hend
    rw [List.append_assoc _ ws', List.append_assoc _ own', List.append_assoc ws]
    exact .mk blank blank' (hown _ (hmore.endsTag hend)) hmore means

end

mutual

lemma IsAtom.moves {cs rest : List Char} {f : Filter} :
    IsAtom cs rest f → Moves (IsAtom · · f) cs rest
  | .tag isRun => moves_tag isRun
  | .group inner => moves_group inner.moves

lemma IsFactor.moves {cs rest : List Char} {negated : Bool} {f : Filter} :
    IsFactor cs rest negated f → Moves (IsFactor · · negated f) cs rest
  | .minus operand => moves_minus operand.moves
  | .atom isAtom => by
    obtain ⟨own, rfl, hbalanced, hown⟩ := isAtom.moves
    exact ⟨own, rfl, hbalanced, fun rest' hrest' => .atom (hown rest' hrest')⟩

lemma MoreFactors.moves {cs rest : List Char} {fs : Factors} :
    MoreFactors cs rest fs → Moves (MoreFactors · · fs) cs rest
  | .nil => ⟨[], rfl, balanced_nil, fun _ _ => .nil⟩
  | .plus blank blank' first others => moves_furtherFactor blank blank' first.moves others.moves

lemma IsTerm.moves {cs rest : List Char} {t : Factors} :
    IsTerm cs rest t → Moves (IsTerm · · t) cs rest
  | .mk first others => moves_term first.moves others.moves

lemma MoreTerms.moves {cs rest : List Char} {ts : List Factors} :
    MoreTerms cs rest ts → Moves (MoreTerms · · ts) cs rest
  | .nil => ⟨[], rfl, balanced_nil, fun _ _ => .nil⟩
  | .cons separator first others => moves_furtherTerm separator first.moves others.moves

lemma IsFilter.moves {cs rest : List Char} {f : Filter} :
    IsFilter cs rest f → Moves (IsFilter · · f) cs rest
  | .mk blank blank' first others means => moves_filter blank blank' first.moves others.moves means

end

/-! ### Groups -/

section
variable {cs rest rest' : List Char} {f g : Filter}

lemma IsFilter.parse_eq (h : IsFilter cs [] f) : parse (String.ofList cs) = .ok f := by
  rw [parse_eq_ok_iff_derives, Derives, String.toList_ofList, if_neg h.not_blank]
  exact h

lemma isFilter_of_parse (hblank : ¬ Blank cs) (h : parse (String.ofList cs) = .ok f) :
    IsFilter cs [] f := by
  rwa [parse_eq_ok_iff_derives, Derives, String.toList_ofList, if_neg hblank] at h

/-- A filter that is a text by itself has one meaning. -/
lemma IsFilter.unique (h : IsFilter cs [] f) (h' : IsFilter cs [] g) : f = g := by
  have hread := h.parse_eq
  rw [h'.parse_eq] at hread
  exact (Except.ok.inj hread).symm

lemma IsFilter.balanced (h : IsFilter cs [] f) : Balanced cs := by
  obtain ⟨own, rfl, hbalanced, -⟩ := h.moves
  rwa [List.append_nil]

/-- A filter that is a text by itself is one in front of any text that ends a run. -/
lemma IsFilter.append (h : IsFilter cs [] f) (hrest : EndsTag rest) :
    IsFilter (cs ++ rest) rest f := by
  obtain ⟨own, rfl, -, hown⟩ := h.moves
  rw [List.append_nil]
  exact hown rest hrest

lemma IsTerm.append {t : Factors} (h : IsTerm cs [] t) (hrest : EndsTag rest) :
    IsTerm (cs ++ rest) rest t := by
  obtain ⟨own, rfl, -, hown⟩ := h.moves
  rw [List.append_nil]
  exact hown rest hrest

/-- In front of a closing parenthesis stands one filter, which ends there. -/
lemma IsFilter.of_closed (h : IsFilter cs [] f)
    (h' : IsFilter (cs ++ ')' :: rest) (')' :: rest') g) : rest' = rest ∧ g = f := by
  obtain ⟨own, heq, hbalanced, hown⟩ := h'.moves
  obtain ⟨rfl, rfl⟩ := h.balanced.unique hbalanced heq
  have hwhole := hown [] nofun
  rw [List.append_nil] at hwhole
  exact ⟨rfl, hwhole.unique h⟩

/-- A filter in parentheses is one atom, wherever it stands. -/
theorem isAtom_group_iff (h : IsFilter cs [] f) :
    IsAtom ('(' :: cs ++ ')' :: rest) rest' g ↔ rest' = rest ∧ g = f := by
  constructor
  · intro hatom
    generalize heq : '(' :: cs ++ ')' :: rest = text at hatom
    cases hatom with
    | @tag run _ isRun =>
      cases run with
      | nil => exact absurd rfl isRun.ne_nil
      | cons c run =>
        obtain ⟨rfl, -⟩ := List.cons.inj heq
        exact absurd List.mem_cons_self (isRun.not_mem (by decide))
    | group inner =>
      obtain ⟨-, rfl⟩ := List.cons.inj heq
      exact h.of_closed inner
  · rintro ⟨rfl, rfl⟩
    exact .group (h.append (endsTag_cons (by decide) _))

end

end TaggedSuite.Filter
