import TaggedSuite.Proofs.Session.Cache.Custody

/-!
# Calls one after the other are a run

Calls that are taken to their ends one after the other, with the calls that their creations make in
between, are one of the orders that steps can be taken in. So what holds after every run holds of
them too, also while a creation is running.
-/
namespace TaggedSuite.Session.Cache

variable {η : Type}

mutual

/-- The handles that a script can create, in the order in which its creations end. -/
def Script.handles : Script η → List η
  | .request _ => []
  | .create _ during outcome => Script.handlesAll during ++ outcome.toOption.toList

/-- The handles that scripts can create one after the other. -/
def Script.handlesAll : List (Script η) → List η
  | [] => []
  | script :: rest => Script.handles script ++ Script.handlesAll rest

end

lemma returned_append (as bs : List (Action η)) :
    returned (as ++ bs) = returned as ++ returned bs :=
  List.flatMap_append

variable [Closable η]

/-- A run leads from one state to the other, and its creations return no other handles than these,
in this order. -/
def RunsTo (s t : State η) (handles : List η) : Prop :=
  ∃ as, s.performAll as = some t ∧ (returned as).Sublist handles

section
variable {s t u : State η} {hs hs' : List η}

lemma RunsTo.refl (s : State η) : RunsTo s s [] := ⟨[], rfl, .refl _⟩

lemma RunsTo.step {a : Action η} (h : s.perform a = some t) : RunsTo s t a.returns :=
  ⟨[a], by rw [State.performAll, h]; rfl, by simp [returned]⟩

lemma RunsTo.trans (h : RunsTo s t hs) (h' : RunsTo t u hs') : RunsTo s u (hs ++ hs') := by
  obtain ⟨as, has, hreturned⟩ := h
  obtain ⟨bs, hbs, hreturned'⟩ := h'
  refine ⟨as ++ bs, by rw [State.performAll_append has, hbs], ?_⟩
  rw [returned_append]
  exact hreturned.append hreturned'

lemma RunsTo.mono (h : RunsTo s t hs) (hsub : hs.Sublist hs') : RunsTo s t hs' := by
  obtain ⟨as, has, hreturned⟩ := h
  exact ⟨as, has, hreturned.trans hsub⟩

/-- A part of a run that creates nothing. -/
lemma RunsTo.after (h' : RunsTo t u hs) (h : RunsTo s t []) : RunsTo s u hs := h.trans h'

end

namespace State

lemma runsTo_start (s : State η) (r : Request) : RunsTo s (s.start r) [] :=
  RunsTo.step (a := .start r) rfl

lemma runsTo_advanceUpTo (call n : Nat) (s : State η) : RunsTo s (s.advanceUpTo call n) [] := by
  induction n generalizing s with
  | zero => exact .refl s
  | succ n ih =>
    rw [advanceUpTo]
    cases h : s.advance call with
    | none => exact .refl s
    | some t => exact (ih t).after (RunsTo.step (a := .advance call) h)

lemma runsTo_settle (s : State η) (call : Nat) : RunsTo s (s.settle call) [] := by
  unfold settle
  split
  · exact runsTo_advanceUpTo call _ s
  · exact .refl s

lemma runsTo_finish (s : State η) (call : Nat) (outcome : Outcome η) :
    RunsTo s ((s.finish call outcome).getD s) outcome.toOption.toList := by
  cases h : s.finish call outcome with
  | none => exact (RunsTo.refl s).mono (List.nil_sublist _)
  | some t =>
    have hstep := RunsTo.step (a := .finish call outcome) h
    cases outcome <;> exact hstep

lemma runsTo_request (s : State η) (r : Request) : RunsTo s (s.request r).1 [] :=
  (runsTo_settle _ _).after (runsTo_start s r)

/-- A call that gets or creates a handle is a run if what its creation does is one. -/
lemma runsTo_getOrCreate {α : Type} (s : State η) (key : CacheKey)
    (create : State η → State η × Outcome η × α) {hs : List η} {outcome : Outcome η}
    (during : ∀ s, RunsTo s (create s).1 hs ∧ (create s).2.1 = outcome) :
    RunsTo s (s.getOrCreate key create).1 (hs ++ outcome.toOption.toList) := by
  have hbefore := (runsTo_settle _ s.calls.length).after (runsTo_start s (.getOrCreate key))
  unfold getOrCreate
  dsimp only
  generalize (s.start (.getOrCreate key)).settle s.calls.length = mid at hbefore ⊢
  split
  · obtain ⟨hcreate, houtcome⟩ := during mid
    rw [houtcome]
    have hended := hcreate.trans (runsTo_finish _ s.calls.length outcome)
    have hsettled := hended.trans (runsTo_settle _ s.calls.length)
    rw [List.append_nil] at hsettled
    exact hsettled.after hbefore
  · exact hbefore.mono (List.nil_sublist _)

end State

mutual

/-- Running a script is a run. -/
theorem Script.runsTo (s : State η) : (script : Script η) →
    RunsTo s (Script.run s script).1 script.handles
  | .request r => s.runsTo_request r
  | .create key during outcome => by
    rw [Script.run, Script.handles]
    exact s.runsTo_getOrCreate key _ fun s => ⟨Script.runsToAll s during, rfl⟩

/-- Running scripts one after the other is a run. -/
theorem Script.runsToAll (s : State η) : (scripts : List (Script η)) →
    RunsTo s (Script.runAll s scripts).1 (Script.handlesAll scripts)
  | [] => .refl s
  | script :: rest => (Script.runsTo s script).trans (Script.runsToAll _ rest)

end

end TaggedSuite.Session.Cache
