import TaggedSuite.Config.Basic
import TaggedSuite.Selection.Loose

/-!
# Choosing the tests of a run

What a run is asked for goes before what the settings of its environment say. Without either, all
tests run.
-/
namespace TaggedSuite

/-- What a run is asked for. Everything that is left open is up to the settings. -/
structure SelectionChoice where
  tags? : Option String
  title? : Option String
  filterSpecs? : Option Bool
  omitFiltered? : Option Bool
  deriving DecidableEq, Repr, Inhabited

namespace SelectionChoice

/-- The choice that leaves everything open. -/
def undecided : SelectionChoice := ⟨none, none, none, none⟩

/-- A setting of the environment section, or a default. -/
def setting (c : RunConfig) (key : String) (default : Value) : Except SelectionError Value :=
  match c.env.entries? with
  | some entries => .ok ((entries.get? (.str key)).getD default)
  | none => .error (.notMapping c.env.kindName)

/-- A text that is asked for, or else the setting with the key. -/
def textOr (c : RunConfig) (key : String) (asked? : Option String) : Except SelectionError Value :=
  match asked? with
  | some s => .ok (.str s)
  | none => setting c key (.str "")

/-- A switch that is asked for, or else whether the setting with the key counts as true. -/
def switchOr (c : RunConfig) (key : String) (asked? : Option Bool) : Except SelectionError Bool :=
  match asked? with
  | some b => .ok b
  | none => (setting c key (.bool false)).map Value.truthy

/-- The switches of a run. -/
def options (choice : SelectionChoice) (c : RunConfig) :
    Except SelectionError SelectionOptions := do
  return ⟨← switchOr c "grepFilterSpecs" choice.filterSpecs?,
    ← switchOr c "grepOmitFiltered" choice.omitFiltered?⟩

/-- The selection of a run. -/
def select (choice : SelectionChoice) (c : RunConfig) : Except SelectionError RunSelection := do
  let options ← choice.options c
  let raw ← textOr c "grepTags" choice.tags?
  let titlePattern ← textOr c "grep" choice.title?
  RunSelection.ofSettings raw titlePattern options

end SelectionChoice

end TaggedSuite
