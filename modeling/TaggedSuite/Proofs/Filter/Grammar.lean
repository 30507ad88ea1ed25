import Mathlib.Tactic.Common
import TaggedSuite.Filter.Expr

/-!
# The grammar of filter texts

    filter := ws* term (sep term)* ws*        sep  := ws+ | ws* ',' ws*
    term   := factor (ws* '+' ws* factor)*    atom := tag | '(' filter ')'
    factor := '-' factor | atom

Each relation leads from a text to the rest after one phrase: `IsFactor cs rest negated f` says that
`cs` is a factor followed by `rest`. A tag is a run of characters that are neither whitespace nor
one of the signs `+,()`. It is as long as possible, so what may follow it belongs to its rule. The
meaning of a filter is put together from those of its factors, with no reference to a parser.
-/
namespace TaggedSuite.Filter

/-- Whitespace, possibly none. -/
def Blank (cs : List Char) : Prop := ∀ c ∈ cs, Text.isBlank c = true

instance (cs : List Char) : Decidable (Blank cs) :=
  decidable_of_iff (cs.all Text.isBlank = true) List.all_eq_true

lemma blank_nil : Blank [] := nofun

lemma Blank.not_mem {cs : List Char} (h : Blank cs) {c : Char} (hc : Text.isBlank c = false) :
    c ∉ cs := by
  intro hmem
  rw [h c hmem] at hc
  cases hc

/-- A maximal run of characters in front of `rest` that makes up a tag: it does not begin with a
minus sign, and it does not consist of `@` signs alone. -/
structure TagRun (run rest : List Char) : Prop where
  allowed : ∀ c ∈ run, Tag.isForbidden c = false
  noMinus : run.head? ≠ some '-'
  named : ¬ ∀ c ∈ run, c = '@'
  maximal : ∀ c ∈ rest.head?, Tag.isForbidden c = true

lemma TagRun.not_mem {run rest : List Char} (h : TagRun run rest) {c : Char}
    (hc : Tag.isForbidden c = true) : c ∉ run := by
  intro hmem
  rw [h.allowed c hmem] at hc
  cases hc

/-- What stands between two terms. -/
inductive IsSeparator : List Char → Prop where
  | gap {ws : List Char} (nonempty : ws ≠ []) (blank : Blank ws) : IsSeparator ws
  | comma {ws ws' : List Char} (blank : Blank ws) (blank' : Blank ws') :
      IsSeparator (ws ++ ',' :: ws')

/-- The factors of a term, each with whether it begins with a minus sign. -/
abbrev Factors := List (Bool × Filter)

/-- Whether the term is one factor that begins with a minus sign. -/
def isExclusion : Factors → Bool
  | [(negated, _)] => negated
  | _ => false

/-- Joins filters from the left; there has to be one. -/
def joinLeft (op : Filter → Filter → Filter) : List Filter → Option Filter
  | [] => none
  | f :: fs => some (fs.foldl op f)

/-- The meaning of a term: its factors as conditions. -/
def termMeaning (factors : Factors) : Option Filter := joinLeft and (factors.map (·.2))

/-- The meaning of a list of terms: the alternatives among them joined to one filter, which comes
first, and every exclusion as a condition on what stands before it. -/
def meaning (terms : List Factors) : Option Filter :=
  let alternatives := (terms.filter fun t => !isExclusion t).filterMap termMeaning
  let exclusions := (terms.filter isExclusion).filterMap termMeaning
  joinLeft and ((joinLeft or alternatives).toList ++ exclusions)

mutual

/-- A tag, or a filter in parentheses. -/
inductive IsAtom : List Char → List Char → Filter → Prop where
  | tag {run rest : List Char} (isRun : TagRun run rest) :
      IsAtom (run ++ rest) rest (.tag ⟨String.ofList (Tag.normalChars run)⟩)
  | group {cs rest : List Char} {f : Filter} (inner : IsFilter cs (')' :: rest) f) :
      IsAtom ('(' :: cs) rest f

/-- An atom, or a factor directly after a minus sign. -/
inductive IsFactor : List Char → List Char → Bool → Filter → Prop where
  | minus {cs rest : List Char} {negated : Bool} {f : Filter}
      (operand : IsFactor cs rest negated f) : IsFactor ('-' :: cs) rest true (.not f)
  | atom {cs rest : List Char} {f : Filter} (isAtom : IsAtom cs rest f) :
      IsFactor cs rest false f

/-- Any number of further factors, each after a plus sign. -/
inductive MoreFactors : List Char → List Char → Factors → Prop where
  | nil {rest : List Char} : MoreFactors rest rest []
  | plus {ws ws' cs mid rest : List Char} {negated : Bool} {f : Filter} {fs : Factors}
      (blank : Blank ws) (blank' : Blank ws') (first : IsFactor cs mid negated f)
      (others : MoreFactors mid rest fs) :
      MoreFactors (ws ++ '+' :: ws' ++ cs) rest ((negated, f) :: fs)

/-- Factors between plus signs. -/
inductive IsTerm : List Char → List Char → Factors → Prop where
  | mk {cs mid rest : List Char} {negated : Bool} {f : Filter} {fs : Factors}
      (first : IsFactor cs mid negated f) (others : MoreFactors mid rest fs) :
      IsTerm cs rest ((negated, f) :: fs)

/-- Any number of further terms, each after a separator. -/
inductive MoreTerms : List Char → List Char → List Factors → Prop where
  | nil {rest : List Char} : MoreTerms rest rest []
  | cons {sep cs mid rest : List Char} {t : Factors} {ts : List Factors}
      (separator : IsSeparator sep) (first : IsTerm cs mid t) (others : MoreTerms mid rest ts) :
      MoreTerms (sep ++ cs) rest (t :: ts)

/-- Terms between separators, with whitespace around them. -/
inductive IsFilter : List Char → List Char → Filter → Prop where
  | mk {ws ws' cs mid rest : List Char} {t : Factors} {ts : List Factors} {f : Filter}
      (blank : Blank ws) (blank' : Blank ws') (first : IsTerm cs mid t)
      (others : MoreTerms mid (ws' ++ rest) ts) (means : meaning (t :: ts) = some f) :
      IsFilter (ws ++ cs) rest f

end

/-- A whole text with the tree that the grammar gives it. Whitespace alone selects every test. -/
def Derives (raw : String) (f : Filter) : Prop :=
  if Blank raw.toList then f = .all else IsFilter raw.toList [] f

end TaggedSuite.Filter
