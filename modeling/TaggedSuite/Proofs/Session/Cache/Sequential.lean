import TaggedSuite.Proofs.Session.Cache.Handles

/-!
# Calls one at a time

While no other call is registered for a lock, a call has nothing to wait for: it comes to its end
within the steps that are allowed for it, and gives back what it has taken. What it does to the
entries and what it ends with are those of a plain map.
-/
namespace TaggedSuite.Session.Cache

variable {η : Type}

/-- Whether a call does not go on by itself from here. -/
def Phase.rests : Phase η → Bool
  | .creating .. | .done _ => true
  | _ => false

namespace State

/-- No call is registered for a lock. -/
structure Idle (s : State η) : Prop where
  pending : s.pending = []
  held : s.held = []

/-- One call is registered for a lock, and holds it. -/
structure Busy (s : State η) (key : CacheKey) (lock : Nat) : Prop where
  pending : s.pending = [⟨key, lock, 1⟩]
  held : s.held = [lock]

lemma Idle.of_sameLocks {s t : State η} (h : s.Idle) (hlocks : SameLocks s t) : t.Idle :=
  ⟨hlocks.pending.trans h.pending, hlocks.held.trans h.held⟩

/-- Lines in the log are all that was added. -/
lemma foldl_say (s : State η) (lines : List LogLine) :
    lines.foldl say s = { s with log := s.log ++ lines } := by
  induction lines generalizing s with
  | nil => simp
  | cons line lines ih =>
    rw [List.foldl_cons, ih]
    simp [say]

lemma call_move {s : State η} {call : Nat} (hcall : call < s.calls.length) (p : Phase η) :
    (s.move call p).calls[call]? = some p := by
  simp [move, hcall]

lemma move_self {s : State η} {call : Nat} {p : Phase η} (h : s.calls[call]? = some p) :
    s.move call p = s := by
  obtain ⟨hlt, rfl⟩ := List.getElem?_eq_some_iff.1 h
  simp [move]

end State

variable [Closable η] {s t u : State η} {p q r : Phase η} {n m call : Nat}

/-! ### Going on without other calls -/

lemma GoesOn.calls (h : GoesOn s p q t) : t.calls = s.calls := by
  cases h with
  | release => exact (release_frame _ _).1
  | _ => rfl

/-- How far a call has come does not matter for what its steps do to the rest. -/
lemma GoesOn.moved (h : GoesOn s p q t) (call : Nat) (x : Phase η) :
    GoesOn (s.move call x) p q (t.move call x) := by
  cases h with
  | acquire free => exact .acquire free
  | hit cached => exact .hit cached
  | miss absent => exact .miss absent
  | create => exact .create
  | store => exact .store
  | recordFailure => exact .recordFailure
  | unlock => exact .unlock
  | leave => exact .leave
  | @release e rest why =>
    have hrelease : (s.release e).move call x = (s.move call x).release e := by
      unfold State.release
      cases Closable.closing e.handle <;> rfl
    rw [hrelease]
    exact .release
  | report => exact .report

lemma advance_of_goesOn (hc : s.calls[call]? = some p) (h : GoesOn s p q t) :
    s.advance call = some (t.move call q) := by
  cases h with
  | acquire free => simp [State.advance, hc, free]
  | hit cached => simp [State.advance, hc, cached]
  | miss absent => simp [State.advance, hc, absent]
  | _ => simp [State.advance, hc]

lemma advance_of_rests (hc : s.calls[call]? = some p) (h : p.rests = true) :
    s.advance call = none := by
  cases p with
  | creating | done => simp [State.advance, hc]
  | _ => cases h

/-- How a call goes on by a number of steps while no other call takes one. -/
inductive Leads : Nat → State η → Phase η → State η → Phase η → Prop
  | refl {s : State η} {p : Phase η} : Leads 0 s p s p
  | step {n : Nat} {s t u : State η} {p q r : Phase η} (goes : GoesOn s p q t)
      (rest : Leads n t q u r) : Leads (n + 1) s p u r

lemma Leads.advanceUpTo (h : Leads n s p u r) (hcall : call < s.calls.length)
    (hrests : r.rests = true) (hm : n ≤ m) :
    (s.move call p).advanceUpTo call m = u.move call r := by
  induction h generalizing m with
  | @refl s p =>
    have hc := State.call_move hcall p
    cases m with
    | zero => rfl
    | succ m => rw [State.advanceUpTo, advance_of_rests hc hrests]
  | @step n s t u p q r goes _ ih =>
    have hc := State.call_move hcall p
    have hmove : (t.move call p).move call q = t.move call q := by simp [State.move]
    cases m with
    | zero => omega
    | succ m =>
      rw [State.advanceUpTo, advance_of_goesOn hc (goes.moved call p), hmove]
      exact ih (goes.calls ▸ hcall) hrests (by omega)

/-- A call comes to rest where its steps lead, if there are not too many of them. -/
lemma Leads.settle_move (h : Leads n s p u r) (hcall : call < s.calls.length)
    (hrests : r.rests = true) (hn : n ≤ p.stepsLeft) :
    (s.move call p).settle call = u.move call r := by
  rw [State.settle, State.call_move hcall p]
  exact h.advanceUpTo hcall hrests hn

lemma Leads.settle (h : Leads n s p u r) (hc : s.calls[call]? = some p) (hrests : r.rests = true)
    (hn : n ≤ p.stepsLeft) : s.settle call = u.move call r := by
  obtain ⟨hlt, -⟩ := List.getElem?_eq_some_iff.1 hc
  rw [← h.settle_move hlt hrests hn, State.move_self hc]

lemma Leads.calls (h : Leads n s p u r) : u.calls = s.calls := by
  induction h with
  | refl => rfl
  | step goes _ ih => rw [ih, goes.calls]

/-! ### To the end of a call -/

section
variable {key : CacheKey} {lock : Nat}

/-- A call with nothing under its key gets as far as the creation, unless the lock is held. -/
lemma leads_waiting (hopen : lock ∉ s.held) (habsent : s.entry? key = none) :
    ∃ u, Leads 3 s (.waiting key lock) u (.creating key lock) ∧ u.held = lock :: s.held ∧
      u.pending = s.pending ∧ u.entries = s.entries ∧ u.closed = s.closed :=
  ⟨_, .step (.acquire hopen) (.step (.miss habsent) (.step .create .refl)), rfl, rfl, rfl, rfl⟩

/-- A call with a result gives its lock back. -/
lemma leads_unlocking (h : s.Busy key lock) (r : Result η) :
    ∃ u, Leads 2 s (.unlocking key lock r) u (.done r) ∧ u.Idle ∧
      u.entries = s.entries ∧ u.closed = s.closed := by
  refine ⟨_, .step .unlock (.step .leave .refl), ⟨?_, ?_⟩, rfl, rfl⟩
  · simp [State.deregister, h.pending]
  · simp [State.deregister, h.held]

/-- A creation that ends leads its call to the end. What it does is what it does to a plain map. -/
lemma leads_ended (h : s.Busy key lock) (hkey : key.isHashable = true)
    (habsent : s.entry? key = none) (outcome : Outcome η) :
    ∃ q n u r, Ends (.creating key lock) outcome q ∧ n ≤ q.stepsLeft ∧
      Leads n s q u (.done r) ∧ u.Idle ∧ u.closed = s.closed ∧
      PlainMap.getOrCreate s.entries key (some outcome) = some (u.entries, r) := by
  cases outcome with
  | ok handle =>
    obtain ⟨u, hleads, hidle, hentries, hclosed⟩ :=
      leads_unlocking (s := (s.store ⟨key, handle⟩).say
        (.info s!"Session created for {key.text} in {State.elapsedMark}s"))
        ⟨h.pending, h.held⟩ (.handle handle)
    refine ⟨_, _, u, _, .returned, by simp [Phase.stepsLeft], .step .store hleads, hidle, hclosed,
      ?_⟩
    refine (PlainMap.getOrCreate_absent hkey habsent).2 (.inl ⟨handle, rfl, ?_, rfl⟩)
    rw [hentries]
    exact State.entries_store_of_absent habsent
  | error f =>
    have hmap {u : State η} (hentries : u.entries = s.entries) :
        PlainMap.getOrCreate s.entries key (some (.error f)) =
          some (u.entries, .raised (f.raised key)) :=
      (PlainMap.getOrCreate_absent hkey habsent).2 (.inr ⟨f, rfl, hentries, rfl⟩)
    cases hf : f.isFailure with
    | true =>
      obtain ⟨u, hleads, hidle, hentries, hclosed⟩ :=
        leads_unlocking (s := s.countFailure.say
          (.warning s!"Session creation failed for {key.text}: {f.message}"))
          ⟨h.pending, h.held⟩ (.raised (f.raised key))
      exact ⟨_, _, u, _, .failed hf, by simp [Phase.stepsLeft], .step .recordFailure hleads, hidle,
        hclosed, hmap hentries⟩
    | false =>
      obtain ⟨u, hleads, hidle, hentries, hclosed⟩ := leads_unlocking h (.raised (f.raised key))
      exact ⟨_, _, u, _, .interrupted hf, by simp [Phase.stepsLeft], hleads, hidle, hclosed,
        hmap hentries⟩

/-- A call that has taken entries out closes them and ends. -/
lemma leads_releasing (s : State η) (evicted : List (Entry η)) (why : Eviction) :
    ∃ u, Leads (evicted.length + 1) s (.releasing evicted why) u
        (.done (State.evictionResult why)) ∧
      SameLocks s u ∧ u.entries = s.entries ∧
      u.closed = s.closed ++ (evicted.map (·.handle)).filter closes := by
  induction evicted generalizing s with
  | nil => exact ⟨_, .step .report .refl, ⟨rfl, rfl, rfl⟩, rfl, by simp⟩
  | cons e rest ih =>
    obtain ⟨u, hleads, hlocks, hentries, hclosed⟩ := ih (s.release e)
    obtain ⟨-, hsame, hfirst⟩ := release_frame s e
    refine ⟨u, .step .release hleads, ?_, hentries.trans hsame, ?_⟩
    · exact ⟨hlocks.pending.trans hfirst.pending, hlocks.held.trans hfirst.held,
        hlocks.lockCount.trans hfirst.lockCount⟩
    · rw [hclosed, closed_release, List.append_assoc, List.map_cons,
        ← List.filter_append]
      rfl

end

/-! ### Whole calls -/

omit [Closable η] in
lemma result?_move {r : Result η} (hcall : call < s.calls.length) :
    (s.move call (.done r)).result? call = some r := by
  simp [State.result?, State.call_move hcall]

omit [Closable η] in
lemma finish_of_ends {outcome : Outcome η} (hc : s.calls[call]? = some p) (h : Ends p outcome q) :
    s.finish call outcome = some (s.move call q) := by
  cases h with
  | returned => simp [State.finish, hc]
  | failed hf | interrupted hf => simp [State.finish, hc, hf]

section
variable {key : CacheKey} {lock : Nat}

/-- Without an entry and without other calls, a call takes a new lock and runs its creation. -/
lemma settle_creating (hidle : s.Idle) (hkey : key.isHashable = true)
    (habsent : s.entry? key = none) :
    ∃ t lock, (s.start (.getOrCreate key)).settle s.calls.length = t ∧
      t.calls[s.calls.length]? = some (.creating key lock) ∧ t.Busy key lock ∧
      t.entries = s.entries ∧ t.closed = s.closed := by
  have hnone : s.pending? key = none := by simp [State.pending?, hidle.pending]
  let registered : State η :=
    { s with pending := [⟨key, s.lockCount, 1⟩], lockCount := s.lockCount + 1 }
  let begun := registered.join (.waiting key s.lockCount)
  have hstart : s.start (.getOrCreate key) = begun := by
    simp [State.start, hkey, State.startCreation, habsent, State.register, hnone, hidle.pending,
      begun, registered]
  have hopen : s.lockCount ∉ begun.held := by simp [begun, registered, State.join, hidle.held]
  obtain ⟨u, hleads, hheld, hpending, hentries, hclosed⟩ := leads_waiting hopen habsent
  have hheld : u.held = [s.lockCount] := hheld.trans (congrArg (s.lockCount :: ·) hidle.held)
  have hc : begun.calls[s.calls.length]? = some (.waiting key s.lockCount) :=
    List.getElem?_concat_length
  have hcall : s.calls.length < u.calls.length := by
    rw [hleads.calls]
    simp [begun, State.join, registered]
  refine ⟨u.move s.calls.length (.creating key s.lockCount), s.lockCount, ?_,
    State.call_move hcall _, ⟨hpending, hheld⟩, hentries, hclosed⟩
  rw [hstart]
  exact hleads.settle hc rfl (by simp [Phase.stepsLeft])

/-- A creation that ends takes its call to the end. -/
lemma settle_ended (h : s.Busy key lock) (hc : s.calls[call]? = some (.creating key lock))
    (hkey : key.isHashable = true) (habsent : s.entry? key = none) (outcome : Outcome η) :
    ∃ t r, ((s.finish call outcome).getD s).settle call = t ∧ t.result? call = some r ∧ t.Idle ∧
      t.closed = s.closed ∧
      PlainMap.getOrCreate s.entries key (some outcome) = some (t.entries, r) := by
  obtain ⟨hcall, -⟩ := List.getElem?_eq_some_iff.1 hc
  obtain ⟨q, n, u, r, hends, hn, hleads, hidle, hclosed, hmap⟩ := leads_ended h hkey habsent outcome
  refine ⟨u.move call (.done r), r, ?_, result?_move (hleads.calls ▸ hcall),
    ⟨hidle.pending, hidle.held⟩, hclosed, hmap⟩
  rw [finish_of_ends hc hends, Option.getD_some]
  exact hleads.settle_move hcall rfl hn

variable {α : Type} (create : State η → State η × Outcome η × α)

/-- A session that is cached is returned, and no creation runs. -/
theorem getOrCreate_of_cached {e : Entry η} (hkey : key.isHashable = true)
    (hcached : s.entry? key = some e) :
    ∃ t, s.getOrCreate key create = (t, some (.handle e.handle), none) ∧ SameLocks s t ∧
      t.entries = s.entries ∧ t.closed = s.closed := by
  let found := s.countHit.say (.debug s!"Session cache hit: {key.text}")
  have hstart : s.start (.getOrCreate key) = found.join (.done (.handle e.handle)) := by
    rw [State.start, if_pos hkey, State.startCreation, hcached]
  have hc : (found.join (.done (.handle e.handle))).calls[s.calls.length]? =
      some (.done (.handle e.handle)) := List.getElem?_concat_length
  have hsettle := (Leads.refl (s := found.join (.done (.handle e.handle)))).settle hc rfl
    (Nat.zero_le _)
  rw [State.move_self hc] at hsettle
  refine ⟨found.join (.done (.handle e.handle)), ?_, ⟨rfl, rfl, rfl⟩, rfl, rfl⟩
  simp [State.getOrCreate, hstart, hsettle, State.isCreating, State.result?, hc]

/-- A session that is not cached is created. If the creation only writes to the log, the call does
what it does on a plain map. -/
theorem getOrCreate_of_absent {outcome : Outcome η} {left : α} {lines : List LogLine}
    (hidle : s.Idle) (hkey : key.isHashable = true) (habsent : s.entry? key = none)
    (hcreate : ∀ t, create t = (lines.foldl State.say t, outcome, left)) :
    ∃ t r, s.getOrCreate key create = (t, some r, some left) ∧ t.Idle ∧ t.closed = s.closed ∧
      PlainMap.getOrCreate s.entries key (some outcome) = some (t.entries, r) := by
  obtain ⟨mid, lock, hsettle, hc, hbusy, hentries, hclosed⟩ :=
    settle_creating hidle hkey habsent
  let written : State η := { mid with log := mid.log ++ lines }
  have hcreated : create mid = (written, outcome, left) := by rw [hcreate, State.foldl_say]
  have hstill : written.entry? key = none := by
    rw [← habsent]
    exact congrArg (List.find? fun e => e.key.same key) hentries
  obtain ⟨t, r, hended, hresult, hdone, hsame, hmap⟩ :=
    settle_ended (s := written) ⟨hbusy.pending, hbusy.held⟩ hc hkey hstill outcome
  refine ⟨t, r, ?_, hdone, hsame.trans hclosed, hentries ▸ hmap⟩
  have hrunning : mid.isCreating s.calls.length = true := by simp [State.isCreating, hc]
  simp only [State.getOrCreate, hsettle, hrunning, if_true, hcreated, hended, hresult]

end

/-- A call that takes entries out closes them. -/
theorem request_of_evicting {r : Request} {evicted : List (Entry η)} {why : Eviction}
    (hstart : s.start r = t.join (.releasing evicted why)) (hcalls : t.calls = s.calls) :
    ∃ u, s.request r = (u, some (State.evictionResult why)) ∧ SameLocks t u ∧
      u.entries = t.entries ∧ u.closed = t.closed ++ (evicted.map (·.handle)).filter closes := by
  obtain ⟨u, hleads, hlocks, hentries, hclosed⟩ :=
    leads_releasing (t.join (.releasing evicted why)) evicted why
  have hc : (t.join (.releasing evicted why)).calls[s.calls.length]? =
      some (.releasing evicted why) := by
    rw [← hcalls]
    exact List.getElem?_concat_length
  have hcall : s.calls.length < u.calls.length := by
    rw [hleads.calls, ← hcalls]
    simp [State.join]
  have hsettle := hleads.settle hc rfl (by simp [Phase.stepsLeft])
  refine ⟨u.move s.calls.length (.done (State.evictionResult why)), ?_, ?_, hentries, hclosed⟩
  · rw [State.request, hstart, hsettle, result?_move hcall]
  · exact ⟨hlocks.pending, hlocks.held, hlocks.lockCount⟩

end TaggedSuite.Session.Cache
