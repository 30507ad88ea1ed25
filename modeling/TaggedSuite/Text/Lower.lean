import TaggedSuite.Text.CaseTable

/-!
# Lower case

Every character is replaced by its lower-case counterpart. Two rules go beyond single characters:
the dotted capital i becomes two characters, and a capital sigma becomes the final form at the end
of a word.
-/
namespace TaggedSuite.Text

/-- The lower-case counterpart by the table, or the same code point. -/
def lowerCodePoint (n : Nat) : Nat :=
  match lowerRanges.find? fun r => r.1 ≤ n && n ≤ r.2.1 && (n - r.1) % r.2.2.1 == 0 with
  | some r => (n + r.2.2.2).toNat
  | none => n

/-- The lower-case counterpart of a character whose form does not depend on its neighbours. -/
def lowerChar (c : Char) : Char :=
  if c.toNat < 128 then c.toLower else Char.ofNat (lowerCodePoint c.toNat)

/-- Whether the nearest character that is not passed over has a case. -/
def nextIsCased (cs : List Char) : Bool :=
  match cs.dropWhile fun c => inRanges caseIgnorableRanges c.toNat with
  | c :: _ => inRanges casedRanges c.toNat
  | [] => false

/-- A sigma is final when a letter comes before it and none after it. The characters before it are
given nearest first. -/
def lowerSigma (before after : List Char) : Char :=
  if nextIsCased before && !nextIsCased after then 'ς' else 'σ'

/-- Lower case of the characters after those in `before`, which are given nearest first. -/
def lowerAfter (before : List Char) : List Char → List Char
  | [] => []
  | c :: rest =>
    let image :=
      if c == 'Σ' then [lowerSigma before rest]
      else if c == 'İ' then ['i', '\u0307']
      else [lowerChar c]
    image ++ lowerAfter (c :: before) rest

def lowerChars (cs : List Char) : List Char := lowerAfter [] cs

@[simp] theorem lowerChars_nil : lowerChars [] = [] := rfl

def lower (s : String) : String := String.ofList (lowerChars s.toList)

@[simp] theorem toList_lower (s : String) : (lower s).toList = lowerChars s.toList := by
  simp [lower]

end TaggedSuite.Text
