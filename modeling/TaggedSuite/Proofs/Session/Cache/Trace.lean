import Mathlib.Tactic.Common
import TaggedSuite.Session.Cache.Step

/-!
# Runs of the cache

A run is a list of steps in the order in which they are taken. The reachable states are those that
runs from the empty cache lead to.
-/
namespace TaggedSuite.Session.Cache

/-- Numbers can stand for handles. They have no way to be closed. -/
instance : Closable Nat where
  closing _ := .absent

variable {η : Type} [Closable η]

namespace State

/-- The state after the steps of a run, if each of them is possible in its turn. -/
def performAll (s : State η) : List (Action η) → Option (State η)
  | [] => some s
  | a :: as =>
    match s.perform a with
    | some t => t.performAll as
    | none => none

variable {s t u : State η}

lemma performAll_cons {a : Action η} {as : List (Action η)} :
    s.performAll (a :: as) = some u ↔ ∃ t, s.perform a = some t ∧ t.performAll as = some u := by
  rw [performAll]
  cases s.perform a <;> simp

lemma performAll_append {as bs : List (Action η)} (h : s.performAll as = some t) :
    s.performAll (as ++ bs) = t.performAll bs := by
  induction as generalizing s with
  | nil =>
    cases h
    rfl
  | cons a as ih =>
    obtain ⟨r, hr, has⟩ := performAll_cons.mp h
    rw [List.cons_append, performAll, hr]
    exact ih has

lemma performAll_snoc {as : List (Action η)} {a : Action η} :
    s.performAll (as ++ [a]) = some u ↔
      ∃ t, s.performAll as = some t ∧ t.perform a = some u := by
  induction as generalizing s with
  | nil =>
    rw [List.nil_append, performAll_cons]
    simp [performAll]
  | cons b as ih =>
    simp only [List.cons_append, performAll_cons, ih]
    constructor
    · rintro ⟨r, hr, t, ht, hu⟩
      exact ⟨t, ⟨r, hr, ht⟩, hu⟩
    · rintro ⟨t, ⟨r, hr, ht⟩, hu⟩
      exact ⟨r, hr, t, ht, hu⟩

/-- How far the calls have come after the steps of a run. -/
def callsAfter (as : List (Action η)) : Option (List (Phase η)) :=
  (empty.performAll as).map (·.calls)

end State

variable {s t : State η}

lemma Reachable.performAll (h : Reachable s) {as : List (Action η)}
    (has : s.performAll as = some t) : Reachable t := by
  induction as generalizing s with
  | nil =>
    cases has
    exact h
  | cons a as ih =>
    obtain ⟨r, hr, has⟩ := State.performAll_cons.mp has
    exact ih (.step a h hr) has

/-- A run that leaves the calls at certain points leads to a reachable state. -/
lemma exists_of_callsAfter {as : List (Action η)} {calls : List (Phase η)}
    (h : State.callsAfter as = some calls) :
    ∃ s, Reachable s ∧ State.empty.performAll as = some s ∧ s.calls = calls := by
  obtain ⟨s, hs, hcalls⟩ := Option.map_eq_some_iff.mp h
  exact ⟨s, Reachable.empty.performAll hs, hs, hcalls⟩

lemma Reachable.exists_run (h : Reachable s) :
    ∃ as, State.empty.performAll as = some s := by
  induction h with
  | empty => exact ⟨[], rfl⟩
  | step a _ hstep ih =>
    obtain ⟨as, has⟩ := ih
    exact ⟨as ++ [a], by rw [State.performAll_append has, State.performAll, hstep]; rfl⟩

end TaggedSuite.Session.Cache
