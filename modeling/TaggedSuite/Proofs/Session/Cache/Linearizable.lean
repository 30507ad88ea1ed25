import TaggedSuite.Proofs.Session.Cache.Callers

/-!
# The cache is linearizable to a plain map

Whatever the order of their steps, calls on the cache end as they do on a plain map when they are
made one at a time in the order of their deciding steps.
-/
namespace TaggedSuite.Session.Cache

variable {η : Type} [Closable η]

/-- A run from the empty cache to a state does what the decided calls do one at a time. -/
structure Linearizes (as : List (Action η)) (t : State η) (ds : List (Decision η))
    (results : List (Nat × Result η)) : Prop where
  /-- The calls have these results on a plain map, and leave the entries of the cache in it. -/
  plain : PlainMap.run [] ds = some (t.entries, results)
  reported : ∀ {i r}, t.result? i = some r → (i, r) ∈ results
  once : (ds.map (·.call)).Nodup
  asked : ∀ d ∈ ds, (requests as)[d.call]? = some d.request
  /-- A call has run the creation that it is decided with, and no other. -/
  created : ∀ d ∈ ds, endings (· == d.call) as = d.creation?.toList
  /-- At any time, the calls that are done by then come before those that start later. -/
  timely : ∀ {bs u}, bs <+: as → State.empty.performAll bs = some u →
    ∃ early late, ds = early ++ late ∧ (∀ {i r}, u.result? i = some r → ∃ d ∈ early, d.call = i) ∧
      ∀ d ∈ early, d.call < u.calls.length

section
variable {s t : State η} {as : List (Action η)}

/-- A store only adds an entry, under a key that nothing is cached under. -/
theorem Reachable.store_adds (h : Reachable s) {i lock : Nat} {key : CacheKey} {handle : η}
    (hi : s.calls[i]? = some (.created key lock handle)) :
    s.entry? key = none ∧
      ∃ t, s.perform (.advance i) = some t ∧ t.entries = s.entries ++ [⟨key, handle⟩] := by
  have habsent := h.entry?_of_missing (State.missing_of_call hi)
  refine ⟨habsent, _, by rw [State.perform, State.advance, hi]; rfl, ?_⟩
  exact State.entries_store_of_absent habsent

theorem linearizes_of_run (has : State.empty.performAll as = some t) :
    ∃ results, Linearizes as t (State.empty.decisions as) results := by
  obtain ⟨results, hrun⟩ := Reachable.empty.explains has
  refine ⟨results, hrun.plain, hrun.mem_of_result? (Nat.zero_le _), hrun.once,
    fun d hd => request_of_decision has hd, fun d hd => endings_of_decision has hd, ?_⟩
  rintro bs u ⟨cs, rfl⟩ hbs
  obtain ⟨_, hearly⟩ := Reachable.empty.explains hbs
  refine ⟨_, _, State.decisions_append hbs, hearly.exists_decision (Nat.zero_le _), ?_⟩
  intro d hd
  obtain ⟨hlt, -⟩ := List.getElem?_eq_some_iff.mp (request_of_decision hbs hd)
  rw [(asked_of_run hbs).length]
  exact hlt

/-- The cache is linearizable to a plain map: the calls of a run end as they do when they are made
one at a time, in the order of the steps that decide them. A store never overwrites an entry, and
callers of a key that come together share its creations. -/
theorem linearizable (has : State.empty.performAll as = some t) :
    (∃ results, Linearizes as t (State.empty.decisions as) results) ∧
      (∀ {i lock key handle}, t.calls[i]? = some (.created key lock handle) →
        t.entry? key = none ∧
          ∃ u, t.perform (.advance i) = some u ∧ u.entries = t.entries ++ [⟨key, handle⟩]) ∧
      ∀ {bs u key f}, t.performAll bs = some u → key.isHashable = true → Burst t bs u key f →
        Counts u.result? f (callers key t.calls.length bs) (attempts key t.calls.length bs) := by
  have hreach := Reachable.empty.performAll has
  exact ⟨linearizes_of_run has, hreach.store_adds, hreach.counts⟩

end

/-- Three callers of one key race. The first attempt fails, the last caller is the next to take the
lock and creates a handle, and the one that is left gets it. -/
theorem linearizable_failing_once :
    let key := CacheKey.session ⟨"qa", "f1"⟩
    let fault := Fault.failed .badValue "down"
    let before : List (Action Nat) := [.start (.contains key)]
    let run : List (Action Nat) :=
      [.start (.getOrCreate key), .start (.getOrCreate key), .start (.getOrCreate key), .advance 1,
        .advance 1, .advance 1, .finish 1 (.error fault), .advance 1, .advance 1, .advance 3,
        .advance 1, .advance 3, .advance 3, .finish 3 (.ok 7), .advance 3, .advance 3, .advance 3,
        .advance 2, .advance 2, .advance 2, .advance 2]
    ∃ s t : State Nat, ∃ results, State.empty.performAll before = some s ∧
      s.performAll run = some t ∧ Linearizes before s (State.empty.decisions before) results ∧
      Burst s run t key 1 ∧ (attempts key 1 run).length = 2 ∧
      ([1, 2, 3].countP fun i => (t.result? i).any Result.isRaised) = 1 := by
  intro key fault before run
  have hbefore : ((State.empty.performAll before).map fun s => (s.entries, s.calls)) =
      some ([], [.done (.present false)]) := by decide
  have hrun : State.callsAfter (before ++ run) =
      some [.done (.present false), .done (.raised (fault.raised key)), .done (.handle 7),
        .done (.handle 7)] := by decide
  obtain ⟨s, hs, hseen⟩ := Option.map_eq_some_iff.mp hbefore
  obtain ⟨hentries, hcalls⟩ := Prod.mk.inj hseen
  obtain ⟨t, -, hwhole, hresults⟩ := exists_of_callsAfter hrun
  rw [State.performAll_append hs] at hwhole
  have hlength : s.calls.length = 1 := by rw [hcalls]; rfl
  have hcallers : callers key 1 run = [1, 2, 3] := by decide
  have hattempts : attempts key 1 run = [.error fault, .ok 7] := by
    rw [attempts, hcallers]
    decide
  have hburst : Burst s run t key 1 := by
    refine ⟨?_, ?_, ?_, ?_, ?_⟩
    · rw [State.entry?, hentries]
      rfl
    · intro i k lock hi
      obtain ⟨p, hp, hreg⟩ := view_eq_some.mp hi
      rw [hcalls] at hp
      rw [List.mem_singleton.mp (List.mem_of_getElem? hp)] at hreg
      cases hreg
    · decide
    · rw [hlength, hcallers]
      simp [State.result?, hresults]
    · rw [hlength, hattempts]
      refine ⟨?_, ?_⟩
      · intro j o hj ho
        obtain rfl : j = 0 := by omega
        cases ho
        rfl
      · intro o ho
        cases ho
        rfl
  obtain ⟨⟨results, hlinear⟩, -, hshared⟩ := linearizable hs
  have hcounts := hshared hwhole rfl hburst
  rw [hlength, hcallers] at hcounts
  exact ⟨s, t, results, hs, hwhole, hlinear, hburst, hcounts.made, hcounts.raised⟩

end TaggedSuite.Session.Cache
