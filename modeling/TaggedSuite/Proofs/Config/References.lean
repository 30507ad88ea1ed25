import Mathlib.Data.List.TakeWhile
import TaggedSuite.Config.Expand
import TaggedSuite.Proofs.Except

/-!
# References and what they stand for

The text of a reference is described on its own, and so is the one way to cut a text into references
and other characters from left to right: a reference wherever one begins, else one character. The
scan finds just these pieces. A text becomes the join of what its pieces stand for, which is not
scanned again, and a value becomes the same value with such texts in place of its own. The first
reference without a meaning, in the order of the texts in the value, is the only error.
-/
namespace TaggedSuite.Expand

variable {vars : Variables} {source : String} {cs rest whole : List Char} {c : Char}
  {r : Reference} {rs ss : List Reference} {ps : List Piece}

/-! ### The pieces of a text -/

/-- A letter or an underscore, with letters, digits and underscores behind it. -/
def IsName (name : List Char) : Prop :=
  ∃ c rest, name = c :: rest ∧ isNameStart c = true ∧ ∀ d ∈ rest, isNamePart d = true

/-- The text of a reference: in braces after a dollar sign a name, which a default may follow. A
default goes on to the first closing brace. -/
inductive Spells : List Char → Reference → Prop where
  | bare {name : List Char} (isName : IsName name) :
      Spells ('$' :: '\x7b' :: (name ++ ['\x7d'])) ⟨String.ofList name, none⟩
  | withDefault {name fallback : List Char} (isName : IsName name) (closed : '\x7d' ∉ fallback) :
      Spells ('$' :: '\x7b' :: (name ++ ':' :: '-' :: (fallback ++ ['\x7d'])))
        ⟨String.ofList name, some (String.ofList fallback)⟩

/-- A text cut into pieces from left to right. A character stands for itself if no reference begins
with it. -/
inductive Splits : List Char → List Piece → Prop where
  | nil : Splits [] []
  | reference {whole rest : List Char} {r : Reference} {ps : List Piece} (spelled : Spells whole r)
      (others : Splits rest ps) : Splits (whole ++ rest) (.reference r :: ps)
  | char {c : Char} {rest : List Char} {ps : List Piece}
      (unspelled : ∀ whole r, Spells whole r → ¬ whole <+: c :: rest) (others : Splits rest ps) :
      Splits (c :: rest) (.char c :: ps)

lemma isNamePart_of_isNameStart (h : isNameStart c = true) : isNamePart c = true := by
  simp only [isNameStart, isNamePart, Char.isAlphanum, Bool.or_eq_true] at h ⊢
  exact h.imp_left .inl

lemma IsName.all {name : List Char} (h : IsName name) : ∀ c ∈ name, isNamePart c = true := by
  obtain ⟨c, rest, rfl, hc, hrest⟩ := h
  exact List.forall_mem_cons.2 ⟨isNamePart_of_isNameStart hc, hrest⟩

/-- A name is read up to the first character that cannot belong to it. -/
lemma IsName.takeWhile_append {name : List Char} (h : IsName name) (hc : isNamePart c = false)
    (rest : List Char) :
    (name ++ c :: rest).takeWhile isNamePart = name ∧
      (name ++ c :: rest).dropWhile isNamePart = c :: rest := by
  rw [List.takeWhile_append_of_pos h.all, List.dropWhile_append_of_pos h.all]
  simp [hc]

/-- A default is read up to the first closing brace. -/
lemma takeWhile_fallback {fallback : List Char} (h : '\x7d' ∉ fallback) (rest : List Char) :
    (fallback ++ '\x7d' :: rest).takeWhile (· != '\x7d') = fallback ∧
      (fallback ++ '\x7d' :: rest).dropWhile (· != '\x7d') = '\x7d' :: rest := by
  have hall : ∀ d ∈ fallback, (d != '\x7d') = true := by
    intro d hd
    exact bne_iff_ne.2 fun he => h (he ▸ hd)
  rw [List.takeWhile_append_of_pos hall, List.dropWhile_append_of_pos hall]
  simp

/-- The text of a reference is read as that reference. -/
lemma Spells.reference? (h : Spells whole r) (rest : List Char) :
    ∃ inside, whole = '$' :: '\x7b' :: inside ∧
      Expand.reference? (inside ++ rest) = some (r, rest) := by
  cases h with
  | @bare name isName =>
    refine ⟨_, rfl, ?_⟩
    obtain ⟨htake, hdrop⟩ := isName.takeWhile_append (c := '\x7d') rfl rest
    obtain ⟨c, tail, rfl, hc, -⟩ := isName
    rw [List.append_assoc, List.singleton_append]
    rw [List.cons_append] at htake hdrop ⊢
    simp only [Expand.reference?, hc, if_true, htake, hdrop]
  | @withDefault name fallback isName closed =>
    refine ⟨_, rfl, ?_⟩
    obtain ⟨htake, hdrop⟩ := isName.takeWhile_append (c := ':') rfl
      ('-' :: (fallback ++ '\x7d' :: rest))
    obtain ⟨htake', hdrop'⟩ := takeWhile_fallback closed rest
    obtain ⟨c, tail, rfl, hc, -⟩ := isName
    simp only [List.append_assoc, List.cons_append, List.nil_append] at htake hdrop ⊢
    simp only [Expand.reference?, hc, if_true, htake, hdrop, htake', hdrop']

/-- What is read as a reference is the text of one. -/
lemma spells_of_reference? (h : reference? cs = some (r, rest)) :
    ∃ whole, Spells whole r ∧ '$' :: '\x7b' :: cs = whole ++ rest := by
  unfold reference? at h
  split at h
  · cases h
  · next c tail =>
    split_ifs at h with hc
    have hname : IsName ((c :: tail).takeWhile isNamePart) := by
      rw [List.takeWhile_cons_of_pos (isNamePart_of_isNameStart hc)]
      exact ⟨c, _, rfl, hc, fun d hd => List.mem_takeWhile_imp hd⟩
    have hsplit := List.takeWhile_append_dropWhile (p := isNamePart) (l := c :: tail)
    dsimp only at h
    split at h
    · next after heq =>
      cases h
      rw [heq] at hsplit
      refine ⟨_, .bare hname, ?_⟩
      conv_lhs => rw [← hsplit]
      simp
    · next after heq =>
      rw [heq] at hsplit
      split at h
      · next d behind heq' =>
        cases h
        have hsplit' := List.takeWhile_append_dropWhile (p := (· != '\x7d')) (l := after)
        have hd := List.head?_dropWhile_not (· != '\x7d') after
        simp only [heq', List.head?_cons, bne_eq_false_iff_eq] at hd
        rw [heq', hd] at hsplit'
        have hclosed : '\x7d' ∉ after.takeWhile (· != '\x7d') := by
          intro hmem
          simpa using List.mem_takeWhile_imp hmem
        refine ⟨_, .withDefault hname hclosed, ?_⟩
        conv_lhs => rw [← hsplit, ← hsplit']
        simp
      · cases h
    · cases h

lemma pieces_of_spells (h : Spells whole r) (rest : List Char) :
    pieces (whole ++ rest) = .reference r :: pieces rest := by
  obtain ⟨inside, rfl, hread⟩ := h.reference? rest
  rw [List.cons_append, List.cons_append, pieces, if_pos ⟨rfl, rfl⟩]
  split
  · next heq =>
    rw [List.tail_cons, hread] at heq
    cases heq
    rfl
  · next heq =>
    rw [List.tail_cons, hread] at heq
    cases heq

lemma pieces_of_unspelled (h : ∀ whole r, Spells whole r → ¬ whole <+: c :: rest) :
    pieces (c :: rest) = .char c :: pieces rest := by
  rw [pieces]
  split_ifs with hopen
  · obtain ⟨rfl, hhead⟩ := hopen
    obtain ⟨inside, rfl⟩ := List.head?_eq_some_iff.1 hhead
    split
    · next heq =>
      obtain ⟨whole, hwhole, hcs⟩ := spells_of_reference? heq
      exact absurd ⟨_, hcs.symm⟩ (h whole _ hwhole)
    · rfl
  · rfl

/-- The pieces of a text are those that a scan from the left finds. -/
lemma splits_pieces (cs : List Char) : Splits cs (pieces cs) := by
  match cs with
  | [] =>
    rw [pieces]
    exact .nil
  | c :: rest =>
    by_cases hspelled : ∃ whole r, Spells whole r ∧ whole <+: c :: rest
    · obtain ⟨whole, r, hwhole, after, hcs⟩ := hspelled
      have hlength : after.length < (c :: rest).length := by
        obtain ⟨inside, rfl, -⟩ := hwhole.reference? after
        rw [← hcs]
        simp only [List.length_append, List.length_cons]
        omega
      rw [← hcs, pieces_of_spells hwhole]
      exact .reference hwhole (splits_pieces after)
    · have hunspelled : ∀ whole r, Spells whole r → ¬ whole <+: c :: rest :=
        fun whole r hwhole hcs => hspelled ⟨whole, r, hwhole, hcs⟩
      rw [pieces_of_unspelled hunspelled]
      exact .char hunspelled (splits_pieces rest)
  termination_by cs.length
  decreasing_by
    · exact hlength
    · exact Nat.lt_succ_self rest.length

/-- The scan cuts a text in the one way that there is. -/
lemma splits_iff : Splits cs ps ↔ pieces cs = ps := by
  constructor
  · intro h
    induction h with
    | nil => rw [pieces]
    | reference spelled _ ih => rw [pieces_of_spells spelled, ih]
    | char unspelled _ ih => rw [pieces_of_unspelled unspelled, ih]
  · rintro rfl
    exact splits_pieces cs

/-! ### What stands for a piece -/

/-- Whether nothing stands for the reference: its variable is not set, and it has no default. -/
def Reference.IsUnset (vars : Variables) (r : Reference) : Prop :=
  r.default? = none ∧ vars.lookup r.name = none

instance (vars : Variables) (r : Reference) : Decidable (r.IsUnset vars) :=
  inferInstanceAs (Decidable (_ ∧ _))

/-- What stands for a reference: the value of its variable if it is set and not empty, else the
default if there is one, else nothing. -/
def Reference.textIn (vars : Variables) (r : Reference) : String :=
  (((vars.lookup r.name).filter (· ≠ "")).or r.default?).getD ""

lemma Reference.resolve_eq (vars : Variables) (source : String) (r : Reference) :
    r.resolve vars source =
      if r.IsUnset vars then .error (.unsetVariable r.name source) else .ok (r.textIn vars) := by
  obtain ⟨name, default?⟩ := r
  cases hlookup : vars.lookup name with
  | none => cases default? <;> simp [resolve, IsUnset, textIn, hlookup]
  | some v => by_cases hv : v = "" <;> simp [resolve, IsUnset, textIn, hlookup, Option.filter, hv]

/-- What stands for a piece of a text. -/
def Piece.textIn (vars : Variables) : Piece → String
  | .char c => String.singleton c
  | .reference r => r.textIn vars

/-- The reference that a piece is. -/
def Piece.reference? : Piece → Option Reference
  | .char _ => none
  | .reference r => some r

/-- The references in a text, from left to right. -/
def referencesIn (s : String) : List Reference := (pieces s.toList).filterMap Piece.reference?

/-- The text with something in place of each of its references. -/
def rewritten (vars : Variables) (s : String) : String :=
  String.join ((pieces s.toList).map (Piece.textIn vars))

/-- A result that depends on references: the first one that nothing stands for is an error. -/
def outcome {α : Type} (vars : Variables) (source : String) (rs : List Reference) (a : α) :
    Except ConfigError α :=
  match rs.find? fun r => r.IsUnset vars with
  | some r => .error (.unsetVariable r.name source)
  | none => .ok a

section
variable {α β γ : Type}

lemma outcome_eq_ok {a b : α} :
    outcome vars source rs a = .ok b ↔ (∀ r ∈ rs, ¬ r.IsUnset vars) ∧ b = a := by
  unfold outcome
  cases hfind : rs.find? fun r => r.IsUnset vars with
  | none =>
    have hall : ∀ r ∈ rs, ¬ r.IsUnset vars := by simpa using hfind
    rw [Except.ok.injEq, eq_comm, and_iff_right hall]
  | some r =>
    have hunset : r.IsUnset vars := by simpa using List.find?_some hfind
    refine iff_of_false nofun ?_
    rintro ⟨hall, -⟩
    exact hall r (List.mem_of_find?_eq_some hfind) hunset

lemma outcome_eq_error {a : α} {e : ConfigError} :
    outcome vars source rs a = .error e ↔
      ∃ r, rs.find? (fun r => r.IsUnset vars) = some r ∧ e = .unsetVariable r.name source := by
  unfold outcome
  cases rs.find? fun r => r.IsUnset vars <;> simp [eq_comm]

lemma outcome_map (f : α → β) (a : α) :
    outcome vars source rs (f a) = outcome vars source rs a >>= fun x => .ok (f x) := by
  unfold outcome
  cases rs.find? fun r => r.IsUnset vars <;> rfl

/-- Work with two results depends on the references of both, those of the first one first. -/
lemma outcome_append (f : α → β → γ) (a : α) (b : β) :
    outcome vars source (rs ++ ss) (f a b) =
      outcome vars source rs a >>= fun x => outcome vars source ss b >>= fun y => .ok (f x y) := by
  unfold outcome
  rw [List.find?_append]
  cases rs.find? fun r => r.IsUnset vars with
  | some r => rfl
  | none => cases ss.find? fun r => r.IsUnset vars <;> rfl

end

lemma Piece.resolve_eq (vars : Variables) (source : String) (p : Piece) :
    p.resolve vars source = outcome vars source p.reference?.toList (p.textIn vars) := by
  cases p with
  | char c => rfl
  | reference r =>
    rw [Piece.resolve, Reference.resolve_eq, outcome]
    by_cases hunset : r.IsUnset vars <;> simp [Piece.reference?, Piece.textIn, hunset]

/-- A text is rewritten if the variables of its references are set; the first one that is not is the
fault. -/
lemma text_eq (vars : Variables) (source s : String) :
    text vars source s = outcome vars source (referencesIn s) (rewritten vars s) := by
  have hpieces (ps : List Piece) : ps.mapM (Piece.resolve vars source) =
      outcome vars source (ps.filterMap Piece.reference?) (ps.map (Piece.textIn vars)) := by
    induction ps with
    | nil => rfl
    | cons p ps ih =>
      have hfirst : (p :: ps).filterMap Piece.reference? =
          p.reference?.toList ++ ps.filterMap Piece.reference? := by
        cases p <;> rfl
      rw [List.mapM_cons, Piece.resolve_eq, ih, hfirst, List.map_cons]
      exact (outcome_append List.cons _ _).symm
  rw [text, hpieces, rewritten, referencesIn]
  exact (outcome_map String.join _).symm

/-! ### Values -/

mutual

/-- The texts in a value in their order, those that are keys excepted. -/
def textsOf : Value → List String
  | .scalar (.str s) => [s]
  | .list items => textsOfItems items
  | .map entries => textsOfEntries entries
  | _ => []

/-- The texts in items. -/
def textsOfItems : List Value → List String
  | [] => []
  | v :: rest => textsOf v ++ textsOfItems rest

/-- The texts in entries. -/
def textsOfEntries : List (Scalar × Value) → List String
  | [] => []
  | (_, v) :: rest => textsOf v ++ textsOfEntries rest

end

mutual

/-- The value with other texts in place of its own. Everything else stays as it is and where it is,
keys included. -/
def mapTexts (f : String → String) : Value → Value
  | .scalar (.str s) => .scalar (.str (f s))
  | .list items => .list (mapItems f items)
  | .map entries => .map (mapEntries f entries)
  | v => v

/-- Items with other texts in them. -/
def mapItems (f : String → String) : List Value → List Value
  | [] => []
  | v :: rest => mapTexts f v :: mapItems f rest

/-- Entries with other texts in their values. -/
def mapEntries (f : String → String) : List (Scalar × Value) → List (Scalar × Value)
  | [] => []
  | (k, v) :: rest => (k, mapTexts f v) :: mapEntries f rest

end

/-- The items of a list stay in their places. -/
lemma mapTexts_list (f : String → String) (items : List Value) :
    mapTexts f (.list items) = .list (items.map (mapTexts f)) := by
  have hitems : mapItems f items = items.map (mapTexts f) := by
    induction items with
    | nil => rfl
    | cons v rest ih => rw [mapItems, ih, List.map_cons]
  rw [mapTexts, hitems]

/-- The entries of a mapping keep their keys and stay in their places. -/
lemma mapTexts_map (f : String → String) (entries : List (Scalar × Value)) :
    mapTexts f (.map entries) = .map (entries.map fun e => (e.1, mapTexts f e.2)) := by
  have hentries : mapEntries f entries = entries.map fun e => (e.1, mapTexts f e.2) := by
    induction entries with
    | nil => rfl
    | cons e rest ih => rw [mapEntries, ih, List.map_cons]
  rw [mapTexts, hentries]

/-- The references in the texts of a value, in their order. -/
def references (v : Value) : List Reference := (textsOf v).flatMap referencesIn

mutual

/-- All texts of a value are rewritten, or the first reference in it to a variable that is not set is
the fault. -/
theorem value_eq (vars : Variables) (source : String) : ∀ v : Value,
    value vars source v = outcome vars source (references v) (mapTexts (rewritten vars) v)
  | .scalar (.str s) => by
    rw [value, text_eq, references, textsOf, List.flatMap_singleton, mapTexts]
    exact (outcome_map Value.str _).symm
  | .list items => by
    rw [value, valueItems_eq vars source items, references, textsOf, mapTexts]
    exact (outcome_map Value.list _).symm
  | .map entries => by
    rw [value, valueEntries_eq vars source entries, references, textsOf, mapTexts]
    exact (outcome_map Value.map _).symm
  | .scalar .null | .scalar (.bool _) | .scalar (.int _) | .scalar (.num _)
  | .scalar (.day _) | .scalar (.moment _) | .scalar (.bytes _)
  | .tuple _ | .view _ | .set _ => rfl

theorem valueItems_eq (vars : Variables) (source : String) : ∀ items : List Value,
    valueItems vars source items = outcome vars source ((textsOfItems items).flatMap referencesIn)
      (mapItems (rewritten vars) items)
  | [] => rfl
  | v :: rest => by
    rw [valueItems, value_eq vars source v, valueItems_eq vars source rest, textsOfItems,
      List.flatMap_append, mapItems]
    exact (outcome_append List.cons _ _).symm

theorem valueEntries_eq (vars : Variables) (source : String) :
    ∀ entries : List (Scalar × Value), valueEntries vars source entries =
      outcome vars source ((textsOfEntries entries).flatMap referencesIn)
        (mapEntries (rewritten vars) entries)
  | [] => rfl
  | (k, v) :: rest => by
    rw [valueEntries, value_eq vars source v, valueEntries_eq vars source rest, textsOfEntries,
      List.flatMap_append, mapEntries]
    exact (outcome_append (fun v rest => (k, v) :: rest) _ _).symm

end

/-- Expanding a value replaces the references in its texts and nothing else: items and entries stay
in their places, and entries keep their keys. The pieces of a text are those of the one way to cut
it from left to right, and what stands for them is joined as it is. There is an error exactly if
nothing stands for some reference, and it tells the first such one in the order of the value. -/
theorem value_exact (vars : Variables) (source : String) (v : Value) :
    (∀ cs ps, Splits cs ps ↔ pieces cs = ps) ∧
      (∀ f items, mapTexts f (.list items) = .list (items.map (mapTexts f))) ∧
      (∀ f entries,
        mapTexts f (.map entries) = .map (entries.map fun e => (e.1, mapTexts f e.2))) ∧
      (∀ w, value vars source v = .ok w ↔
        (∀ r ∈ references v, ¬ r.IsUnset vars) ∧ w = mapTexts (rewritten vars) v) ∧
      ((∃ e, value vars source v = .error e) ↔ ∃ r ∈ references v, r.IsUnset vars) ∧
      ∀ e, value vars source v = .error e ↔
        ∃ r, (references v).find? (fun r => r.IsUnset vars) = some r ∧
          e = .unsetVariable r.name source := by
  have herror : ∀ e, value vars source v = .error e ↔
      ∃ r, (references v).find? (fun r => r.IsUnset vars) = some r ∧
        e = .unsetVariable r.name source := by
    intro e
    rw [value_eq]
    exact outcome_eq_error
  refine ⟨fun cs ps => splits_iff, mapTexts_list, mapTexts_map, fun w => ?_, ?_, herror⟩
  · rw [value_eq]
    exact outcome_eq_ok
  · simp only [herror, exists_comm (α := ConfigError), exists_and_left, exists_eq, and_true]
    rw [← Option.isSome_iff_exists, List.find?_isSome]
    simp

-- what begins no reference stays, a default ends at the first brace, and values are left alone
example : rewritten [("A", "x$\x7bB\x7d"), ("B", "")]
      "$\x7b1$\x7bA\x7d-$\x7bA:-$\x7bB\x7d\x7d-$\x7bB:-d\x7d$\x7bA:-" =
    "$\x7b1x$\x7bB\x7d-x$\x7bB\x7d\x7d-d$\x7bA:-" := by cbv

end TaggedSuite.Expand
