import TaggedSuite.Text.CompatibilityTable

/-!
# The compatible form of identifiers

Identifiers that differ only in compatible forms of their characters are the same. The common form
is reached in three steps: every character is decomposed, combining marks are put into the order of
their classes, and what has a composed form is composed.
-/
namespace TaggedSuite.Text

/-- The first syllable made of Korean letters. -/
def syllableBase : Nat := 0xAC00

/-- The letters of a Korean syllable, or nothing for another character. -/
def syllableLetters? (n : Nat) : Option (List Nat) :=
  if syllableBase ≤ n ∧ n < syllableBase + 11172 then
    let i := n - syllableBase
    let final := i % 28
    some ([0x1100 + i / 588, 0x1161 + i % 588 / 28] ++ if final = 0 then [] else [0x11A7 + final])
  else none

/-- The full decomposition of a code point. -/
def decompose (n : Nat) : List Nat :=
  match syllableLetters? n with
  | some letters => letters
  | none =>
    match decompositions.find? fun e => e.first ≤ n && n ≤ e.last with
    | some e => e.targets.map (· + (n - e.first))
    | none => [n]

def combiningClass (n : Nat) : Nat :=
  match combiningClasses.find? fun e => e.first ≤ n && n ≤ e.last with
  | some e => e.targets.headD 0
  | none => 0

/-- Splits the marks in front, which have a class other than zero, from what follows. -/
def splitMarks (cs : List Nat) : List Nat × List Nat := cs.span fun n => combiningClass n != 0

/-- Puts each run of marks into the order of their classes; marks of one class keep their order. -/
def orderMarks : Nat → List Nat → List Nat
  | 0, cs => cs
  | _ + 1, [] => []
  | fuel + 1, c :: rest =>
    if combiningClass c = 0 then c :: orderMarks fuel rest
    else
      let (marks, after) := splitMarks (c :: rest)
      marks.mergeSort (fun a b => combiningClass a ≤ combiningClass b) ++ orderMarks fuel after

/-- The composed form of two code points. -/
def composePair? (a b : Nat) : Option Nat :=
  if 0x1100 ≤ a ∧ a < 0x1113 ∧ 0x1161 ≤ b ∧ b < 0x1176 then
    some (syllableBase + (a - 0x1100) * 588 + (b - 0x1161) * 28)
  else if syllableBase ≤ a ∧ a < syllableBase + 11172 ∧ (a - syllableBase) % 28 = 0
      ∧ 0x11A7 < b ∧ b < 0x11C3 then
    some (a + (b - 0x11A7))
  else (compositions.find? fun e => e.targets == [a, b]).map (·.first)

/-- Composes the marks after a starter as far as possible. `kept` holds the marks that stay, last
first; a mark is blocked by a kept one of the same or a higher class. -/
def composeAfter (starter : Nat) (kept : List Nat) : List Nat → List Nat
  | [] => starter :: kept.reverse
  | c :: rest =>
    let blocked : Bool := match kept with
      | k :: _ => combiningClass c ≤ combiningClass k
      | [] => false
    match if blocked then none else composePair? starter c with
    | some composed => composeAfter composed kept rest
    | none =>
      if combiningClass c = 0 then starter :: kept.reverse ++ composeAfter c [] rest
      else composeAfter starter (c :: kept) rest

/-- Composes ordered code points. Marks before the first starter stay as they are. -/
def compose (cs : List Nat) : List Nat :=
  match splitMarks cs with
  | (marks, c :: rest) => marks ++ composeAfter c [] rest
  | (marks, []) => marks

/-- The compatible form of an identifier. Nothing changes in ASCII. -/
def compatibleForm (s : String) : String :=
  if s.toList.all fun c => c.toNat < 128 then s
  else
    let parts := s.toList.flatMap fun c => decompose c.toNat
    String.ofList ((compose (orderMarks (parts.length + 1) parts)).map Char.ofNat)

end TaggedSuite.Text
