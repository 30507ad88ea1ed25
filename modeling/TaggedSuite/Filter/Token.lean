import TaggedSuite.Tag.Basic

/-!
# Tokens of a filter text

The text splits into runs of whitespace, single operator characters and tag texts. A tag text is as
long as possible; it cannot begin with a minus sign but may hold one. Whitespace separates terms,
except beside an operator or a parenthesis where it means nothing: such a gap is dropped.
-/
namespace TaggedSuite.Filter

inductive TokenKind where
  | tag
  | minus
  | plus
  | comma
  | gap
  | opening
  | closing
  deriving DecidableEq, Repr

/-- A piece of a filter text with the number of characters before it. -/
structure Token where
  kind : TokenKind
  text : List Char
  position : Nat
  deriving DecidableEq, Repr

/-- The operator or parenthesis that a character always stands for. -/
def single? : Char → Option TokenKind
  | '+' => some .plus
  | ',' => some .comma
  | '(' => some .opening
  | ')' => some .closing
  | _ => none

/-- Whether a tag text goes on with the character. -/
def isTagChar (c : Char) : Bool := !Text.isBlank c && (single? c).isNone

/-- The kind of the token that begins with a character. -/
def kindOf (c : Char) : TokenKind :=
  if Text.isBlank c then .gap
  else match single? c with
    | some kind => kind
    | none => if c = '-' then .minus else .tag

/-- The characters after the first one that belong to the same token. -/
def tailLength (kind : TokenKind) (rest : List Char) : Nat :=
  match kind with
  | .gap => (rest.takeWhile Text.isBlank).length
  | .tag => (rest.takeWhile isTagChar).length
  | _ => 0

/-- The tokens of the characters after the first `position` ones. -/
def tokensFrom (position : Nat) : List Char → List Token
  | [] => []
  | c :: rest =>
    let n := tailLength (kindOf c) rest
    ⟨kindOf c, c :: rest.take n, position⟩ :: tokensFrom (position + 1 + n) (rest.drop n)
  termination_by cs => cs.length
  decreasing_by simp only [List.length_drop, List.length_cons]; omega

/-- The tokens of a text, gaps included. -/
def rawTokens (cs : List Char) : List Token := tokensFrom 0 cs

/-- After these, and at the beginning, a gap means nothing. -/
def bindsRight : Option TokenKind → Bool
  | none | some .plus | some .comma | some .opening => true
  | _ => false

/-- Before these, and at the end, a gap means nothing. -/
def bindsLeft : Option TokenKind → Bool
  | none | some .plus | some .comma | some .closing => true
  | _ => false

/-- The tokens without the gaps that mean nothing, given the kind of the token before them. -/
def dropGaps (before : Option TokenKind) : List Token → List Token
  | [] => []
  | t :: rest =>
    let kept := dropGaps (some t.kind) rest
    if t.kind = .gap ∧ (bindsRight before ∨ bindsLeft (rest.head?.map (·.kind))) then kept
    else t :: kept

/-- The tokens of a text that matter. -/
def tokens (cs : List Char) : List Token := dropGaps none (rawTokens cs)

@[simp] theorem rawTokens_nil : rawTokens [] = [] := by simp [rawTokens, tokensFrom]

@[simp] theorem dropGaps_nil (before : Option TokenKind) : dropGaps before [] = [] := rfl

end TaggedSuite.Filter
