import TaggedSuite.Value.Conversion

/-!
# Faults of a YAML text
-/
namespace TaggedSuite.Yaml

/-- Why a text has no value. -/
inductive Fault where
  /-- The text is no YAML, or something in it does not fit its kind. -/
  | malformed
  | conversion (f : ConversionFault)
  deriving DecidableEq, Repr

/-- What there is, where nothing at all makes a text malformed. -/
def orMalformed {α : Type} : Option α → Except Fault α
  | some a => .ok a
  | none => .error .malformed

@[simp] theorem orMalformed_some {α : Type} (a : α) : orMalformed (some a) = .ok a := rfl

@[simp] theorem orMalformed_none {α : Type} : orMalformed (none : Option α) = .error .malformed :=
  rfl

end TaggedSuite.Yaml
