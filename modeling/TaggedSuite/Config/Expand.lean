import TaggedSuite.Config.Error
import TaggedSuite.Value.Basic

/-!
# References to variables

A text may refer to a variable by its name between braces after a dollar sign, with an optional
default after a colon and a minus sign. One scan from left to right replaces the references; what is
put in their place is not scanned again.
-/
namespace TaggedSuite

/-- The variables that references are looked up in, by name. -/
abbrev Variables := List (String × String)

namespace Variables

/-- Gives a variable a value, whether or not it had one. A variable keeps its place. -/
def set (vars : Variables) (name value : String) : Variables :=
  match vars with
  | [] => [(name, value)]
  | (n, v) :: rest => if n = name then (n, value) :: rest else (n, v) :: set rest name value

/-- The variables of both lists; the second list decides about those in both. -/
def override (vars top : Variables) : Variables := top.foldl (fun acc e => acc.set e.1 e.2) vars

end Variables

namespace Expand

structure Reference where
  name : String
  default? : Option String
  deriving DecidableEq, Repr

/-- A piece of a text: a character that stands for itself, or a reference. -/
inductive Piece where
  | char (c : Char)
  | reference (r : Reference)
  deriving DecidableEq, Repr

/-- Whether a name may begin with the character. -/
def isNameStart (c : Char) : Bool := c.isAlpha || c == '_'

/-- Whether a name may go on with the character. -/
def isNamePart (c : Char) : Bool := c.isAlphanum || c == '_'

/-- Reads a reference after its dollar sign and opening brace. Gives it with the characters after
its closing brace. -/
def reference? (cs : List Char) : Option (Reference × List Char) :=
  match cs with
  | [] => none
  | c :: _ =>
    if isNameStart c then
      let name := String.ofList (cs.takeWhile isNamePart)
      match cs.dropWhile isNamePart with
      | '\x7d' :: rest => some (⟨name, none⟩, rest)
      | ':' :: '-' :: rest =>
        match rest.dropWhile (· != '\x7d') with
        | _ :: after => some (⟨name, some (String.ofList (rest.takeWhile (· != '\x7d')))⟩, after)
        | [] => none
      | _ => none
    else none

theorem length_dropWhile_le {α : Type} (p : α → Bool) (l : List α) :
    (l.dropWhile p).length ≤ l.length := (List.dropWhile_sublist p).length_le

theorem reference?_length {cs rest : List Char} {r : Reference}
    (h : reference? cs = some (r, rest)) : rest.length < cs.length := by
  unfold reference? at h
  split at h
  · contradiction
  · next c tail =>
    have hle := length_dropWhile_le isNamePart (c :: tail)
    split at h
    · dsimp only at h
      split at h
      · next after heq =>
        rw [heq] at hle
        simp only [Option.some.injEq, Prod.mk.injEq] at h
        obtain ⟨-, rfl⟩ := h
        simp only [List.length_cons] at hle ⊢
        omega
      · next after heq =>
        rw [heq] at hle
        split at h
        · next d rest' heq' =>
          have hle' := length_dropWhile_le (· != '\x7d') after
          rw [heq'] at hle'
          simp only [Option.some.injEq, Prod.mk.injEq] at h
          obtain ⟨-, rfl⟩ := h
          simp only [List.length_cons] at hle hle' ⊢
          omega
        · contradiction
      · contradiction
    · contradiction

/-- The pieces of a text: at each place a reference if one stands there, else one character. -/
def pieces : List Char → List Piece
  | [] => []
  | c :: rest =>
    if c = '$' ∧ rest.head? = some '\x7b' then
      match h : reference? rest.tail with
      | some (r, after) =>
        have : after.length < rest.tail.length := reference?_length h
        .reference r :: pieces after
      | none => .char c :: pieces rest
    else .char c :: pieces rest
  termination_by cs => cs.length
  decreasing_by all_goals simp_all only [List.length_tail, List.length_cons]; omega

/-- What stands for a reference: the value of its variable if that is not empty, else its default,
else the empty value. A variable that is not set and has no default is an error. -/
def Reference.resolve (r : Reference) (vars : Variables) (source : String) :
    Except ConfigError String :=
  match vars.lookup r.name, r.default? with
  | some v, default? => .ok (if v = "" then default?.getD "" else v)
  | none, some d => .ok d
  | none, none => .error (.unsetVariable r.name source)

/-- What stands for a piece. -/
def Piece.resolve (vars : Variables) (source : String) : Piece → Except ConfigError String
  | .char c => .ok (String.singleton c)
  | .reference r => r.resolve vars source

/-- A text with its references replaced. -/
def text (vars : Variables) (source s : String) : Except ConfigError String := do
  return String.join (← (pieces s.toList).mapM (Piece.resolve vars source))

mutual

/-- A value with the references in its texts replaced, those in keys excepted. -/
def value (vars : Variables) (source : String) : Value → Except ConfigError Value
  | .scalar (.str s) => return .str (← text vars source s)
  | .list items => return .list (← valueItems vars source items)
  | .map entries => return .map (← valueEntries vars source entries)
  | v => return v

/-- Items with their references replaced. -/
def valueItems (vars : Variables) (source : String) : List Value → Except ConfigError (List Value)
  | [] => return []
  | v :: rest => do
    let v ← value vars source v
    return v :: (← valueItems vars source rest)

/-- Entries with the references in their values replaced. -/
def valueEntries (vars : Variables) (source : String) :
    List (Scalar × Value) → Except ConfigError (List (Scalar × Value))
  | [] => return []
  | (k, v) :: rest => do
    let v ← value vars source v
    return (k, v) :: (← valueEntries vars source rest)

end

end Expand

end TaggedSuite
