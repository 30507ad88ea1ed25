import TaggedSuite.Proofs.Session.Cache.Sequential
import TaggedSuite.Proofs.Session.Cache.Trace

/-!
# Calls never get stuck

The only thing that a call waits for is the lock of its key. A lock that is held is held by a call
that is past waiting, and such a call can always go on, whether its creation is still to begin, is
running, or has ended in any way. So some call that has not finished can take a step, and the one
that holds a lock gives it back by a few steps of its own.
-/
namespace TaggedSuite.Session.Cache

variable {η : Type}

/-- Whether a call has come to its end. -/
def Phase.isDone : Phase η → Bool
  | .done _ => true
  | _ => false

namespace State

/-- The call was begun and has not come to its end. -/
def Unfinished (s : State η) (call : Nat) : Prop :=
  ∃ p, s.calls[call]? = some p ∧ p.isDone = false

variable [Closable η]

/-- A step of the call is possible: it goes on, or its creation is running, which ends in one way or
another. -/
def CanStep (s : State η) (call : Nat) : Prop :=
  (∃ t, s.perform (.advance call) = some t) ∨
    ∀ outcome, ∃ t, s.perform (.finish call outcome) = some t

/-- With at most `n` steps, none of which belongs to another call, the lock is given back, given how
a creation of the call ends. -/
def GivesBack (s : State η) (call lock : Nat) (outcome : Outcome η) (n : Nat) : Prop :=
  ∃ as t, as.length ≤ n ∧ (∀ a ∈ as, a = .advance call ∨ a = .finish call outcome) ∧
    s.performAll as = some t ∧ lock ∉ t.held

end State

/-- A call that is registered for a lock has not finished. -/
lemma Phase.isDone_of_registration? {p : Phase η} {key : CacheKey} {lock : Nat}
    (h : p.registration? = some (key, lock)) : p.isDone = false := by
  cases p <;> first | rfl | cases h

/-- However a creation ends, its call goes on from there. -/
lemma ends_of_outcome (key : CacheKey) (lock : Nat) (outcome : Outcome η) :
    ∃ q, Ends (.creating key lock) outcome q := by
  cases outcome with
  | ok h => exact ⟨_, .returned⟩
  | error f =>
    cases hf : f.isFailure with
    | true => exact ⟨_, .failed hf⟩
    | false => exact ⟨_, .interrupted hf⟩

variable [Closable η] {s t u : State η} {p q : Phase η} {call lock n m : Nat}
  {outcome : Outcome η}

lemma State.canStep_of_goesOn (hc : s.calls[call]? = some p) (h : GoesOn s p q t) :
    s.CanStep call :=
  .inl ⟨_, advance_of_goesOn hc h⟩

lemma State.canStep_of_creating {key : CacheKey}
    (hc : s.calls[call]? = some (.creating key lock)) : s.CanStep call := by
  refine .inr fun outcome => ?_
  obtain ⟨q, hends⟩ := ends_of_outcome key lock outcome
  exact ⟨_, finish_of_ends hc hends⟩

/-- A call that waits is the only one that may be unable to take a step. -/
lemma State.canStep_or_waiting (hc : s.calls[call]? = some p) (hopen : p.isDone = false) :
    s.CanStep call ∨ ∃ key lock, p = .waiting key lock ∧ lock ∈ s.held := by
  cases p with
  | waiting key lock =>
    by_cases hheld : lock ∈ s.held
    · exact .inr ⟨key, lock, rfl, hheld⟩
    · exact .inl (canStep_of_goesOn hc (.acquire hheld))
  | holding key lock =>
    cases hentry : s.entry? key with
    | some e => exact .inl (canStep_of_goesOn hc (.hit hentry))
    | none => exact .inl (canStep_of_goesOn hc (.miss hentry))
  | missed => exact .inl (canStep_of_goesOn hc .create)
  | creating => exact .inl (canStep_of_creating hc)
  | created => exact .inl (canStep_of_goesOn hc .store)
  | failed => exact .inl (canStep_of_goesOn hc .recordFailure)
  | unlocking => exact .inl (canStep_of_goesOn hc .unlock)
  | leaving => exact .inl (canStep_of_goesOn hc .leave)
  | releasing rest why =>
    cases rest with
    | nil => exact .inl (canStep_of_goesOn hc .report)
    | cons e rest => exact .inl (canStep_of_goesOn hc .release)
  | done => cases hopen

/-- A call that holds a lock has not finished, and it can take a step. -/
lemma State.canStep_of_owned (h : s.owned call = some lock) :
    s.Unfinished call ∧ s.CanStep call := by
  obtain ⟨p, hc, howned⟩ := view_eq_some.mp h
  obtain ⟨key, hregistered⟩ := Phase.registration?_of_ownedLock? howned
  have hopen := Phase.isDone_of_registration? hregistered
  refine ⟨⟨p, hc, hopen⟩, ?_⟩
  rcases canStep_or_waiting hc hopen with hstep | ⟨_, _, rfl, _⟩
  · exact hstep
  · cases howned

/-! ### Giving a lock back -/

lemma State.GivesBack.mono (h : s.GivesBack call lock outcome n) (hle : n ≤ m) :
    s.GivesBack call lock outcome m := by
  obtain ⟨as, t, hlength, hown, hrun, hfree⟩ := h
  exact ⟨as, t, Nat.le_trans hlength hle, hown, hrun, hfree⟩

lemma State.GivesBack.step {a : Action η} (h : t.GivesBack call lock outcome n)
    (ha : a = .advance call ∨ a = .finish call outcome) (hstep : s.perform a = some t) :
    s.GivesBack call lock outcome (n + 1) := by
  obtain ⟨as, u, hlength, hown, hrun, hfree⟩ := h
  refine ⟨a :: as, u, Nat.succ_le_succ hlength, ?_, performAll_cons.mpr ⟨t, hstep, hrun⟩, hfree⟩
  intro b hb
  rcases List.mem_cons.mp hb with rfl | hb
  · exact ha
  · exact hown b hb

/-- The lock is given back from a point if it is from the next one. -/
lemma Reachable.givesBack_of_goesOn (h : Reachable s) (hc : s.calls[call]? = some p)
    (hgoes : GoesOn s p q t)
    (hnext : ∀ {u : State η}, Reachable u → u.calls[call]? = some q →
      u.GivesBack call lock outcome n) :
    s.GivesBack call lock outcome (n + 1) := by
  have hstep : s.perform (.advance call) = some (t.move call q) := advance_of_goesOn hc hgoes
  obtain ⟨hlt, -⟩ := List.getElem?_eq_some_iff.mp hc
  have hmoved := State.call_move (hgoes.calls ▸ hlt) q
  exact (hnext (.step _ h hstep) hmoved).step (.inl rfl) hstep

section
variable {key : CacheKey}

lemma Reachable.givesBack_unlocking (h : Reachable s) {r : Result η}
    (hc : s.calls[call]? = some (.unlocking key lock r)) :
    s.GivesBack call lock outcome 1 := by
  have hstep : s.perform (.advance call) = _ := advance_of_goesOn hc .unlock
  refine ⟨[.advance call], _, Nat.le_refl 1, by simp, State.performAll_cons.mpr ⟨_, hstep, rfl⟩, ?_⟩
  exact h.locks.once.not_mem_erase

lemma Reachable.givesBack_creating (h : Reachable s)
    (hc : s.calls[call]? = some (.creating key lock)) : s.GivesBack call lock outcome 3 := by
  obtain ⟨q, hends⟩ := ends_of_outcome key lock outcome
  have hstep : s.perform (.finish call outcome) = _ := finish_of_ends hc hends
  obtain ⟨hlt, -⟩ := List.getElem?_eq_some_iff.mp hc
  have hmoved := State.call_move hlt q
  have ht : Reachable (s.move call q) := .step _ h hstep
  refine State.GivesBack.step ?_ (.inr rfl) hstep
  -- an interruption is not recorded, so the lock is given back a step earlier
  cases hends with
  | returned => exact ht.givesBack_of_goesOn hmoved .store fun hu hq => hu.givesBack_unlocking hq
  | failed =>
    exact ht.givesBack_of_goesOn hmoved .recordFailure fun hu hq => hu.givesBack_unlocking hq
  | interrupted => exact (ht.givesBack_unlocking hmoved).mono (by omega)

lemma Reachable.givesBack_missed (h : Reachable s)
    (hc : s.calls[call]? = some (.missed key lock)) : s.GivesBack call lock outcome 4 :=
  h.givesBack_of_goesOn hc .create fun hu hq => hu.givesBack_creating hq

end

/-- A call that holds a lock gives it back by steps of its own, however its creation ends. -/
lemma Reachable.givesBack (h : Reachable s) (howned : s.owned call = some lock)
    (outcome : Outcome η) : s.GivesBack call lock outcome 5 := by
  obtain ⟨p, hc, howned⟩ := view_eq_some.mp howned
  cases p with
  | waiting | leaving | releasing | done => cases howned
  | holding key =>
    cases howned
    cases hentry : s.entry? key with
    | some e =>
      exact (h.givesBack_of_goesOn hc (.hit hentry) fun hu hq =>
        hu.givesBack_unlocking hq).mono (by omega)
    | none => exact h.givesBack_of_goesOn hc (.miss hentry) fun hu hq => hu.givesBack_missed hq
  | missed =>
    cases howned
    exact (h.givesBack_missed hc).mono (by omega)
  | creating =>
    cases howned
    exact (h.givesBack_creating hc).mono (by omega)
  | created =>
    cases howned
    exact (h.givesBack_of_goesOn hc .store fun hu hq => hu.givesBack_unlocking hq).mono (by omega)
  | failed =>
    cases howned
    exact (h.givesBack_of_goesOn hc .recordFailure fun hu hq =>
      hu.givesBack_unlocking hq).mono (by omega)
  | unlocking =>
    cases howned
    exact (h.givesBack_unlocking hc).mono (by omega)

omit [Closable η] in
/-- Without a call that is registered, no lock is held and none is left. -/
lemma Locks.idle (h : Locks s) (hnone : ∀ i, s.registered i = none) : s.Idle := by
  constructor
  · refine List.eq_nil_iff_forall_not_mem.mpr fun p hp => ?_
    have husers := h.counted p hp ▸ h.used p hp
    obtain ⟨i, key, hi⟩ := State.users_pos_iff.mp husers
    rw [hnone i] at hi
    cases hi
  · refine List.eq_nil_iff_forall_not_mem.mpr fun lock hlock => ?_
    obtain ⟨i, howned⟩ := h.held.mp hlock
    obtain ⟨key, hi⟩ := State.registered_of_owned howned
    rw [hnone i] at hi
    cases hi

/-- Without a call that has not finished, no lock is held and none is left. -/
lemma Reachable.idle (h : Reachable s) (hdone : ∀ i, ¬ s.Unfinished i) : s.Idle := by
  refine h.locks.idle fun i => ?_
  by_contra hsome
  obtain ⟨⟨key, lock⟩, hi⟩ := Option.ne_none_iff_exists'.mp hsome
  obtain ⟨q, hc, hq⟩ := view_eq_some.mp hi
  exact hdone i ⟨q, hc, Phase.isDone_of_registration? hq⟩

/-- In every state that calls can lead to, a call that has not finished can take a step if there is
such a call. Every lock that is held belongs to one that can, and that gives it back by at most five
steps of its own even if its creation fails or is interrupted. When all calls have finished, no lock
is held and none is left. -/
theorem Reachable.progress (h : Reachable s) :
    ((∃ i, s.Unfinished i) → ∃ i, s.Unfinished i ∧ s.CanStep i) ∧
    (∀ lock ∈ s.held, ∃ i, s.owned i = some lock ∧ s.Unfinished i ∧ s.CanStep i ∧
      ∀ outcome, s.GivesBack i lock outcome 5) ∧
    ((∀ i, ¬ s.Unfinished i) → s.Idle) := by
  refine ⟨?_, ?_, h.idle⟩
  · rintro ⟨i, p, hc, hopen⟩
    rcases State.canStep_or_waiting hc hopen with hstep | ⟨key, lock, -, hheld⟩
    · exact ⟨i, ⟨p, hc, hopen⟩, hstep⟩
    · -- the call waits for a lock, so the one that holds the lock can go on
      obtain ⟨j, howned⟩ := h.locks.held.mp hheld
      exact ⟨j, State.canStep_of_owned howned⟩
  · intro lock hlock
    obtain ⟨i, howned⟩ := h.locks.held.mp hlock
    obtain ⟨hopen, hstep⟩ := State.canStep_of_owned howned
    exact ⟨i, howned, hopen, hstep, h.givesBack howned⟩

/-- A creation was interrupted while a second caller waits for the lock of the key and the cache is
cleared: the second caller cannot go on, but the first one can and gives the lock back. -/
theorem progress_interrupted :
    let key := CacheKey.session ⟨"qa", "f1"⟩
    let raised := Raised.interrupted (.named "KeyboardInterrupt") "stop"
    ∃ s : State Nat, Reachable s ∧
      s.calls = [.unlocking key 0 (.raised raised), .waiting key 0, .releasing [] (.all 0)] ∧
        ¬ s.CanStep 1 ∧ (∃ i, s.Unfinished i ∧ s.CanStep i) ∧
          ∃ i, s.owned i = some 0 ∧ ∀ outcome, s.GivesBack i 0 outcome 5 := by
  intro key raised
  let stop := Fault.interrupted (.named "KeyboardInterrupt") "stop"
  have hrun : State.callsAfter [.start (.getOrCreate key), .start (.getOrCreate key), .advance 0,
      .advance 0, .advance 0, .start .clear, .finish 0 (.error stop)] =
      some ([.unlocking key 0 (.raised raised), .waiting key 0, .releasing [] (.all 0)] :
        List (Phase Nat)) := by decide
  obtain ⟨s, hs, -, hcalls⟩ := exists_of_callsAfter hrun
  have hholds : s.calls[0]? = some (.unlocking key 0 (.raised raised)) := by rw [hcalls]; rfl
  have hwaits : s.calls[1]? = some (.waiting key 0) := by rw [hcalls]; rfl
  have hfirst : s.owned 0 = some 0 := State.owned_of_call hholds
  have hheld : 0 ∈ s.held := hs.locks.held.mpr ⟨0, hfirst⟩
  obtain ⟨hsome, hholder, -⟩ := hs.progress
  obtain ⟨i, howned, -, -, hback⟩ := hholder 0 hheld
  refine ⟨s, hs, hcalls, ?_, hsome ⟨1, _, hwaits, rfl⟩, i, howned, hback⟩
  rintro (⟨t, ht⟩ | hends)
  · simp [State.perform, State.advance, hwaits, hheld] at ht
  · obtain ⟨t, ht⟩ := hends (.ok 0)
    simp [State.perform, State.finish, hwaits] at ht

end TaggedSuite.Session.Cache
