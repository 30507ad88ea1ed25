import TaggedSuite.Proofs.Session.Cache.Balance
import TaggedSuite.Proofs.Session.Cache.Unwinding

/-!
# After a creation that fails

A call whose creation ends with a fault takes a few more steps: it records the failure, unless it
was interrupted, gives back the lock and ends its registration. None of these touches the entries,
and nothing is cached under the key. So the next call for the key runs a creation of its own,
whatever else the calls within the creation, or others at the same time, have done.
-/
namespace TaggedSuite.Session

section
variable (key outer : CacheKey) (f : Fault)

end

namespace Cache

variable {η : Type}

/-- The lock under the key, if there is one, is held by no call. -/
def State.Unlocked (s : State η) (key : CacheKey) : Prop :=
  ∀ p, s.pending? key = some p → p.lock ∉ s.held

/-- How far a call has come whose creation has ended with a fault, and how many failures it has
recorded. -/
inductive Phase.GivesUp (key : CacheKey) (lock : Nat) (f : Fault) : Nat → Phase η → Prop where
  | recording (failure : f.isFailure = true) : GivesUp key lock f 0 (.failed key lock f)
  | unlocking : GivesUp key lock f f.isFailure.toNat (.unlocking key lock (.raised (f.raised key)))
  | leaving : GivesUp key lock f f.isFailure.toNat (.leaving key lock (.raised (f.raised key)))
  | ended : GivesUp key lock f f.isFailure.toNat (.done (.raised (f.raised key)))

/-- The state after a call has come to its end by steps of its own, from the end of its creation on.
It raises, and stores nothing; what is left of it is a failure in the counts. -/
structure GaveUp (s t : State η) (call : Nat) (key : CacheKey) (f : Fault) : Prop where
  result : t.result? call = some (.raised (f.raised key))
  others : ∀ i, i ≠ call → t.calls[i]? = s.calls[i]?
  entries : t.entries = s.entries
  absent : t.entry? key = none
  stats : t.stats = { s.stats with failures := s.stats.failures + f.isFailure.toNat }
  released : ∀ lock, s.owned call = some lock → lock ∉ t.held
  unlocked : t.Unlocked key
  /-- The lock under the key stays just if another call is registered under it. -/
  dropped : (t.pending? key).isSome = true ↔
    ∃ i k lock, i ≠ call ∧ s.registered i = some (k, lock) ∧ k.same key = true

section
variable [Closable η] {s t u : State η} {p q : Phase η} {a : Action η} {key k : CacheKey}
  {call lock n i : Nat} {f : Fault} {as bs : List (Action η)}

/-! ### A call that creates -/

lemma Reachable.register_not_held (hs : Reachable s) (hlock : s.Unlocked key) :
    (s.register key).2 ∉ s.held := by
  unfold State.register
  split
  · next p hp => exact hlock p hp
  · exact hs.locks.lockCount_not_mem

/-- With nothing under its key and the lock not held, a call runs its creation. -/
lemma Reachable.opened_of_absent (hs : Reachable s) (hkey : key.isHashable = true)
    (habsent : s.entry? key = none) (hlock : s.Unlocked key) :
    ∃ lock, (s.opened key).calls = s.calls ++ [.creating key lock] := by
  obtain ⟨hcalls, hentries, hheld⟩ := register_frame s key
  let begun := (s.register key).1.join (.waiting key (s.register key).2)
  have hstart : s.start (.getOrCreate key) = begun := by
    rw [State.start, if_pos hkey, State.startCreation, habsent]
  have hbegun : begun.calls = s.calls ++ [.waiting key (s.register key).2] := by
    simp [begun, State.join, hcalls]
  have hfree : (s.register key).2 ∉ begun.held := by
    have hnot := hs.register_not_held hlock
    simpa [begun, State.join, hheld] using hnot
  have hnone : begun.entry? key = none := by
    rw [← habsent]
    exact congrArg (List.find? fun e => e.key.same key) hentries
  obtain ⟨u, hleads, -⟩ := leads_waiting hfree hnone
  have hc : begun.calls[s.calls.length]? = some (.waiting key (s.register key).2) := by
    simp [hbegun]
  refine ⟨(s.register key).2, ?_⟩
  rw [State.opened, hstart, hleads.settle hc rfl (by simp [Phase.stepsLeft])]
  simp [State.move, hleads.calls, hbegun]

/-- A call that runs its creation runs it for its key. -/
lemma State.opened_of_creating (h : (s.opened key).isCreating s.calls.length = true) :
    key.isHashable = true ∧ ∃ lock, (s.opened key).calls = s.calls ++ [.creating key lock] := by
  obtain ⟨q, hcalls, -, hq⟩ := s.opened_calls key
  have hc : (s.opened key).calls[s.calls.length]? = some q := by simp [hcalls]
  cases q with
  | creating k lock =>
    rcases hq with hdone | ⟨hkey, lock', hreg⟩
    · cases hdone
    · cases hreg
      exact ⟨hkey, lock, hcalls⟩
  | _ => simp [State.isCreating, hc] at h

/-! ### From the fault to the end of the call -/

/-- What the steps of a call do to the rest from the end of a creation that fails to its own. -/
lemma State.ended_error (hc : s.calls[call]? = some (.creating key lock)) (f : Fault) :
    ∃ lines, s.ended call (.error f) =
      (State.deregister { s with
        stats := { s.stats with failures := s.stats.failures + f.isFailure.toNat }
        held := s.held.erase lock
        log := lines } lock).move call (.done (.raised (f.raised key))) := by
  obtain ⟨hlt, -⟩ := List.getElem?_eq_some_iff.mp hc
  rw [State.ended]
  cases hf : f.isFailure with
  | true =>
    rw [finish_of_ends hc (.failed hf), Option.getD_some]
    have hleads : Leads 3 s (.failed key lock f) _ (.done (.raised (f.raised key))) :=
      .step .recordFailure (.step .unlock (.step .leave .refl))
    exact ⟨_, hleads.settle_move hlt rfl (by simp [Phase.stepsLeft])⟩
  | false =>
    rw [finish_of_ends hc (.interrupted hf), Option.getD_some]
    have hleads : Leads 2 s (.unlocking key lock (.raised (f.raised key))) _
        (.done (.raised (f.raised key))) := .step .unlock (.step .leave .refl)
    exact ⟨_, hleads.settle_move hlt rfl (by simp [Phase.stepsLeft])⟩

lemma Reachable.ended (hs : Reachable s) (call : Nat) (outcome : Outcome η) :
    Reachable (s.ended call outcome) :=
  hs.performAll (s.performAll_ending call outcome)

omit [Closable η] in
/-- A call that is not registered any more is none of those that keep the lock under a key. -/
lemma Locks.pending?_isSome_of_left (h : Locks t) (hleft : t.registered call = none) :
    (t.pending? key).isSome = true ↔
      ∃ i k lock, i ≠ call ∧ t.registered i = some (k, lock) ∧ k.same key = true := by
  rw [h.pending?_isSome_iff]
  constructor
  · rintro ⟨i, k, lock, hi, hsame⟩
    refine ⟨i, k, lock, ?_, hi, hsame⟩
    rintro rfl
    rw [hleft] at hi
    cases hi
  · rintro ⟨i, k, lock, -, hi, hsame⟩
    exact ⟨i, k, lock, hi, hsame⟩

/-- A call whose creation fails gives up. -/
theorem Reachable.gaveUp (hs : Reachable s) (hc : s.calls[call]? = some (.creating key lock))
    (f : Fault) : GaveUp s (s.ended call (.error f)) call key f := by
  have ht := hs.ended call (.error f)
  obtain ⟨hlt, -⟩ := List.getElem?_eq_some_iff.mp hc
  have habsent := hs.entry?_of_missing (State.missing_of_call hc)
  obtain ⟨lines, hended⟩ := State.ended_error hc f
  have hcalls : (s.ended call (.error f)).calls =
      s.calls.set call (.done (.raised (f.raised key))) := by
    rw [hended]
    rfl
  have hregistered (i : Nat) : (s.ended call (.error f)).registered i =
      if i = call then none else s.registered i := State.registered_set hc hcalls i
  have howned (i : Nat) : (s.ended call (.error f)).owned i =
      if i = call then none else s.owned i := State.owned_set hc hcalls i
  refine ⟨?_, ?_, by rw [hended]; rfl, ?_, by rw [hended]; rfl, ?_, ?_, ?_⟩
  · rw [State.result?_eq_some, hcalls, List.getElem?_set_self hlt]
  · intro i hne
    rw [hcalls, List.getElem?_set_ne hne.symm]
  · rw [← habsent, hended]
    rfl
  · intro l hl
    rw [State.owned_of_call hc] at hl
    cases hl
    rw [hended]
    exact hs.locks.once.not_mem_erase
  · -- only one call could hold the lock under the key, and it was this one
    intro p hp hheld
    obtain ⟨i, hi⟩ := ht.locks.held.mp hheld
    obtain ⟨k, hk⟩ := State.registered_of_owned hi
    have hsame := (ht.locks.registered_iff hp hk).mp rfl
    rw [hregistered] at hk
    rw [howned] at hi
    split_ifs at hi hk with hne
    exact hne (hs.owner_unique hk hi (State.registered_of_call hc) (State.owned_of_call hc) hsame)
  · rw [ht.locks.pending?_isSome_of_left (by rw [hregistered, if_pos rfl])]
    constructor
    · rintro ⟨i, k, lock', hne, hi, hsame⟩
      rw [hregistered, if_neg hne] at hi
      exact ⟨i, k, lock', hne, hi, hsame⟩
    · rintro ⟨i, k, lock', hne, hi, hsame⟩
      exact ⟨i, k, lock', hne, by rw [hregistered, if_neg hne, hi], hsame⟩

/-! ### Whatever other calls do meanwhile -/

omit [Closable η] in
lemma Phase.GivesUp.ne (h : GivesUp key lock f n p) {l : Nat} :
    p ≠ .creating k l ∧ p ≠ .waiting k l := by
  cases h <;> exact ⟨nofun, nofun⟩

end

/-! ### The next call for the key -/

namespace PlainMap

variable {m m' : PlainMap η} {key : CacheKey} {r : Request} {result : Result η}
  {creation? : Option (Outcome η)}

end PlainMap

section
variable [Closable η] {s t u : State η} {p : Phase η} {key : CacheKey} {call lock : Nat} {f : Fault}
  {bs : List (Action η)}

variable {α : Type} {create : State η → State η × Outcome η × α} {left : α} {as : List (Action η)}

/-- When the creation of a call fails, the call raises, whatever the creation has done before. -/
lemma Reachable.getOrCreate_failing (hs : Reachable s)
    (hcreating : (s.opened key).isCreating s.calls.length = true)
    (hcreate : create (s.opened key) = (t, .error f, left))
    (has : (s.opened key).performAll as = some t)
    (hothers : ∀ a ∈ as, a.call? ≠ some s.calls.length) :
    s.getOrCreate key create =
        (t.ended s.calls.length (.error f), some (.raised (f.raised key)), some left) ∧
      Reachable t ∧ key.isHashable = true ∧
      GaveUp t (t.ended s.calls.length (.error f)) s.calls.length key f := by
  obtain ⟨hkey, lock, hcalls⟩ := State.opened_of_creating hcreating
  have ht := (hs.opened key).performAll has
  have hopened : (s.opened key).calls[s.calls.length]? = some (.creating key lock) := by
    simp [hcalls]
  have hc := call_of_others has hopened hothers
  have hgave := ht.gaveUp hc f
  refine ⟨?_, ht, hkey, hgave⟩
  rw [State.getOrCreate_eq, hcreating, if_pos rfl, hcreate]
  simp only [hgave.result]

/-- The lock under the key is gone if no other call is there for the key. -/
lemma GaveUp.pending?_eq_none (h : GaveUp t u s.calls.length key f)
    (hcreating : (s.opened key).isCreating s.calls.length = true)
    (has : (s.opened key).performAll as = some t) (hfree : s.Free key)
    (hrequests : ∀ r ∈ requests as, r.gets key = false) : u.pending? key = none := by
  obtain ⟨-, lock, hcalls⟩ := State.opened_of_creating hcreating
  have hbefore : ∀ i k lock, i ≠ s.calls.length →
      (s.opened key).registered i = some (k, lock) → k.same key = false := by
    intro i k lock hne hi
    rw [State.registered_append hcalls, if_neg hne] at hi
    exact hfree i k lock hi
  have hothers := others_run has hbefore hrequests
  by_contra hsome
  obtain ⟨i, k, lock', hne, hi, hsame⟩ := h.dropped.mp (Option.isSome_iff_ne_none.mpr hsome)
  rw [hothers i k lock' hne hi] at hsame
  cases hsame

/-- After a call that gave up, the next call for the key runs its creation. -/
lemma GaveUp.retries {call : Nat} (h : GaveUp t u call key f) (hu : Reachable u)
    (hkey : key.isHashable = true) {β : Type} (retry : State η → State η × Outcome η × β) :
    ∃ v r, u.getOrCreate key retry = (v, r, some (retry (u.opened key)).2.2) := by
  obtain ⟨lock, hcalls⟩ := hu.opened_of_absent hkey h.absent h.unlocked
  have hcreating : (u.opened key).isCreating u.calls.length = true := by
    simp [State.isCreating, hcalls]
  rw [State.getOrCreate_eq, hcreating, if_pos rfl]
  exact ⟨_, _, rfl⟩

/-- A call for a key that nothing can be cached under is only noted. -/
lemma getOrCreate_unhashable (s : State η) (hkey : key.isHashable = false)
    (create : State η → State η × Outcome η × α) :
    s.getOrCreate key create =
      (s.join (.done (.unhashable key.kindName)), some (.unhashable key.kindName), none) := by
  have hstart : s.start (.getOrCreate key) = s.join (.done (.unhashable key.kindName)) := by
    rw [State.start, hkey]
    rfl
  have hc : (s.start (.getOrCreate key)).calls[s.calls.length]? =
      some (.done (.unhashable key.kindName)) := by simp [hstart, State.join]
  have hopened : s.opened key = s.join (.done (.unhashable key.kindName)) := by
    rw [State.opened, Leads.refl.settle hc rfl (Nat.zero_le _), State.move_self hc, hstart]
  rw [← hstart] at hopened ⊢
  rw [State.getOrCreate_eq, hopened]
  simp [State.isCreating, State.result?, hc]

/-- A script whose creation fails reports what the fault is to its caller. Unless the calls of the
creation ask for its key, or others were at it before, the lock under the key is gone then. -/
theorem Script.run_failing (hs : Reachable s) (during : List (Script η)) (f : Fault)
    (hcreating : (s.opened key).isCreating s.calls.length = true) :
    ∃ u reports, Script.run s (.create key during (.error f)) =
        (u, .mk (some (.raised (f.raised key))) (some reports)) ∧
      GaveUp (Script.runAll (s.opened key) during).1 u s.calls.length key f ∧
      (s.Free key → Script.avoidsAll key during = true → u.pending? key = none) := by
  obtain ⟨-, lock, hcalls⟩ := State.opened_of_creating hcreating
  have hrun := Script.performAll_stepsAll (s.opened key) during
  have hlength : s.calls.length < (s.opened key).calls.length := by simp [hcalls]
  let create (s : State η) : State η × Outcome η × List (Report η) :=
    ((Script.runAll s during).1, .error f, (Script.runAll s during).2)
  have hcreate : create (s.opened key) = (_, .error f, _) := rfl
  obtain ⟨hresult, -, -, hgave⟩ :=
    hs.getOrCreate_failing hcreating hcreate hrun (Script.others_stepsAll hlength)
  refine ⟨_, (Script.runAll (s.opened key) during).2, ?_, hgave, fun hfree havoids => ?_⟩
  · have hscript : Script.run s (.create key during (.error f)) =
        ((s.getOrCreate key create).1,
          .mk (s.getOrCreate key create).2.1 (s.getOrCreate key create).2.2) := by
      rw [Script.run]
    rw [hscript, hresult]
  · exact hgave.pending?_eq_none hcreating hrun hfree (Script.requests_stepsAll havoids)

end

end Cache

end TaggedSuite.Session
