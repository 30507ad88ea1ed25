import TaggedSuite.Proofs.Session.Cache.Custody
import TaggedSuite.Proofs.Session.Cache.Registrations
import TaggedSuite.Proofs.Session.Cache.Scripts

/-!
# The statistics balance

Every miss is on its way to a creation, or has become one, or a failure or an interruption. Every
call that gets or creates a handle has hit or missed with its last look. Every entry that was
created is cached or was removed. Each step of a call keeps these three balances, so they hold at
any time.
-/
namespace TaggedSuite.Session.Cache

variable {η : Type}

/-- Whether a call with the request looks for an entry and counts what it finds. -/
def Request.looksUp : Request → Bool
  | .getOrCreate key => key.isHashable
  | _ => false

/-- Whether a call has found nothing, and has neither stored anything nor given up yet. -/
def Phase.isMissing (p : Phase η) : Bool := p.missing?.isSome

/-- Whether a call is past its last look. -/
def Phase.hasLooked : Phase η → Bool
  | waiting .. | holding .. => false
  | _ => true

/-- Whether a step ends a creation that is interrupted. -/
def Action.interrupts : Action η → Bool
  | .finish _ (.error f) => !f.isFailure
  | _ => false

namespace State

/-- The calls that have made their last look for an entry, by their number. -/
def lookups (rs : List Request) (s : State η) : Nat :=
  (rs.zip s.calls).countP fun c => c.1.looksUp && c.2.hasLooked

variable [Closable η]

/-- The entries that nothing is cached in the place of after a step, with the call that it belongs
to. -/
def removes (s : State η) (a : Action η) : List (Nat × Entry η) :=
  match s.perform a with
  | some t =>
    (s.entries.filter fun e => (t.entry? e.key).isNone).map (a.call?.getD s.calls.length, ·)
  | none => []

/-- The entries that a run removes, in order, each with the call that removes it. -/
def removed (s : State η) (as : List (Action η)) : List (Nat × Entry η) := s.seen removes as

/-- The number of entries that a call removes in a run. -/
def removedBy (s : State η) (as : List (Action η)) (call : Nat) : Nat :=
  (s.removed as).countP (·.1 == call)

end State

/-- The counts after a run of calls, against its steps and where the calls are. -/
structure Balanced [Closable η] (as : List (Action η)) (s : State η) : Prop where
  /-- A miss has come to its end in one of three ways, or has not come to it yet. -/
  misses : s.stats.misses = s.stats.creations + s.stats.failures + as.countP Action.interrupts +
    s.calls.countP Phase.isMissing
  /-- The last look of a call is a hit or a miss. -/
  lookups : s.stats.hits + s.stats.misses = s.lookups (requests as)
  /-- What was created is cached or was removed. -/
  entries : s.entries.length + (State.empty.removed as).length = s.stats.creations
  /-- Only the calls that are made to do so remove entries. -/
  removed : ∀ {i e}, (i, e) ∈ State.empty.removed as →
    ∃ r, (requests as)[i]? = some r ∧ r.evicts e.key = true
  /-- A call that removes the entries of an actor ends with their number, or has removed nothing. -/
  evicted : ∀ {i actor r}, (requests as)[i]? = some (.invalidateActor actor) →
    s.result? i = some r →
      r = .evicted (State.empty.removedBy as i) ∨
        (∃ kind, r = .noActor kind) ∧ State.empty.removedBy as i = 0

/-! ### What a step counts -/

section
variable {s t : State η} {p q : Phase η} {a : Action η} {rs : List Request} {r : Request}

lemma register_stats (s : State η) (key : CacheKey) : (s.register key).1.stats = s.stats := by
  unfold State.register
  split <;> rfl

/-- A call that begins is missing nothing, and counts a hit if it finds an entry at once. -/
lemma start_counts (s : State η) (r : Request) :
    ∃ p, (s.start r).calls = s.calls ++ [p] ∧ p.isMissing = false ∧
      (s.start r).stats = { s.stats with
        hits := s.stats.hits + if r.looksUp && p.hasLooked then 1 else 0 } := by
  cases r with
  | getOrCreate key =>
    rw [State.start]
    split_ifs with hkey
    · unfold State.startCreation
      split
      · exact ⟨_, rfl, rfl, by simp [Request.looksUp, Phase.hasLooked, hkey]; rfl⟩
      · refine ⟨_, congrArg (· ++ _) (register_frame s key).1, rfl, ?_⟩
        simp [Phase.hasLooked, State.join, register_stats]
    · exact ⟨_, rfl, rfl, by simp [Request.looksUp, hkey]; rfl⟩
  | get key | contains key =>
    rw [State.start]
    split_ifs <;> exact ⟨_, rfl, rfl, rfl⟩
  | invalidate key =>
    rw [State.start]
    split_ifs
    · unfold State.startInvalidation
      split <;> exact ⟨_, rfl, rfl, rfl⟩
    · exact ⟨_, rfl, rfl, rfl⟩
  | invalidateActor actor =>
    rw [State.start, State.startActorInvalidation]
    split <;> exact ⟨_, rfl, rfl, rfl⟩
  | clear => exact ⟨_, rfl, rfl, rfl⟩

lemma release_stats [Closable η] (s : State η) (e : Entry η) :
    (s.release e).stats = s.stats := by
  unfold State.release
  cases Closable.closing e.handle <;> rfl

/-- A call that comes to miss an entry counts a miss, and one that no longer misses it counts a
creation or a failure. -/
lemma GoesOn.counts_missing [Closable η] (h : GoesOn s p q t) :
    t.stats.misses + s.stats.creations + s.stats.failures + (if p.isMissing then 1 else 0) =
      s.stats.misses + t.stats.creations + t.stats.failures + if q.isMissing then 1 else 0 := by
  cases h with
  | release =>
    rw [release_stats]
    rfl
  | _ =>
    simp [Phase.isMissing, Phase.missing?, State.countHit, State.countMiss, State.countFailure,
      State.say, State.store, State.deregister] <;> omega

/-- A call that takes its last look counts a hit or a miss. -/
lemma GoesOn.counts_looked [Closable η] (h : GoesOn s p q t) :
    t.stats.hits + t.stats.misses + (if p.hasLooked then 1 else 0) =
      s.stats.hits + s.stats.misses + if q.hasLooked then 1 else 0 := by
  cases h with
  | release =>
    rw [release_stats]
    rfl
  | _ =>
    simp [Phase.hasLooked, State.countHit, State.countMiss, State.countFailure,
      State.say, State.store, State.deregister] <;> omega

/-- A call whose creation ends is still missing an entry, unless it is interrupted. -/
lemma Ends.isMissing {outcome : Outcome η} (h : Ends p outcome q) (call : Nat) :
    p.isMissing = true ∧ q.isMissing = !(Action.finish call outcome).interrupts := by
  cases h with
  | returned => exact ⟨rfl, rfl⟩
  | failed hf | interrupted hf =>
    simp [Phase.isMissing, Phase.missing?, Action.interrupts, hf]

/-! ### What a step does to the balances -/

section
variable {c : Nat}

lemma zip_set {α β : Type} {l : List α} {m : List β} {x : α} (hx : l[c]? = some x) (y : β) :
    l.zip (m.set c y) = (l.zip m).set c (x, y) := by
  induction l generalizing m c with
  | nil => cases hx
  | cons a l ih =>
    cases m with
    | nil => simp
    | cons b m =>
      cases c with
      | zero =>
        cases hx
        rfl
      | succ c => simp [ih (c := c) hx]

lemma State.lookups_set (hr : rs[c]? = some r) (hc : s.calls[c]? = some p)
    (calls : t.calls = s.calls.set c q) :
    t.lookups rs + (if r.looksUp && p.hasLooked then 1 else 0) =
      s.lookups rs + if r.looksUp && q.hasLooked then 1 else 0 := by
  have hzip : (rs.zip s.calls)[c]? = some (r, p) := List.getElem?_zip_eq_some.mpr ⟨hr, hc⟩
  rw [lookups, lookups, calls, zip_set hr]
  exact countP_set_add (fun x => x.1.looksUp && x.2.hasLooked) hzip (r, q)

lemma State.lookups_append (hlength : rs.length = s.calls.length)
    (calls : t.calls = s.calls ++ [p]) :
    t.lookups (rs ++ [r]) = s.lookups rs + if r.looksUp && p.hasLooked then 1 else 0 := by
  rw [lookups, lookups, calls, List.zip_append hlength, List.countP_append]
  simp [List.countP_cons]

end

lemma Phase.hasLooked_of_free (h : p.registration? = none) : p.hasLooked = true := by
  cases p <;> first | rfl | cases h

variable [Closable η]

/-- A miss stays accounted for. -/
lemma misses_step {n : Nat} (hstep : s.perform a = some t)
    (h : s.stats.misses = s.stats.creations + s.stats.failures + n +
      s.calls.countP Phase.isMissing) :
    t.stats.misses = t.stats.creations + t.stats.failures +
      (n + if a.interrupts then 1 else 0) + t.calls.countP Phase.isMissing := by
  cases a with
  | start r =>
    cases hstep
    obtain ⟨p, hcalls, hp, hstats⟩ := start_counts s r
    rw [hcalls, hstats, List.countP_append]
    simp [hp, Action.interrupts, h]
  | advance call =>
    obtain ⟨p, q, u, hp, hgoes, rfl⟩ := goesOn_of_advance hstep
    have hset := countP_set_add Phase.isMissing hp q
    have hcounts := hgoes.counts_missing
    have hcalls : (u.move call q).calls = s.calls.set call q := by
      rw [State.move, hgoes.calls]
    rw [hcalls]
    simp only [Action.interrupts, State.move]
    simp only [Bool.false_eq_true, if_false]
    omega
  | finish call outcome =>
    obtain ⟨p, q, hp, hends, rfl⟩ := ends_of_finish hstep
    have hset := countP_set_add Phase.isMissing hp q
    obtain ⟨hbefore, hafter⟩ := hends.isMissing call
    rw [hbefore, hafter] at hset
    simp only [State.move, h]
    cases hi : (Action.finish call outcome).interrupts <;> simp [hi] at hset ⊢ <;> omega

/-- A look stays accounted for. -/
lemma lookups_step (hs : Reachable s) (hasked : Asked s rs) (hstep : s.perform a = some t)
    (h : s.stats.hits + s.stats.misses = s.lookups rs) :
    t.stats.hits + t.stats.misses = t.lookups (rs ++ a.request?.toList) := by
  have hnone (hrequest : a.request? = none) : rs ++ a.request?.toList = rs := by
    rw [hrequest, Option.toList_none, List.append_nil]
  cases a with
  | start r =>
    cases hstep
    obtain ⟨p, hcalls, -, hstats⟩ := start_counts s r
    have hlookups := State.lookups_append (r := r) hasked.length.symm hcalls
    rw [Action.request?, Option.toList_some, hlookups, hstats]
    simp only
    omega
  | advance call =>
    obtain ⟨p, q, u, hp, hgoes, rfl⟩ := goesOn_of_advance hstep
    rw [hnone rfl]
    have hcalls : (u.move call q).calls = s.calls.set call q := by
      rw [State.move, hgoes.calls]
    have hlooked := hgoes.counts_looked
    cases hreg : p.registration? with
    | some at_ =>
      obtain ⟨key, lock⟩ := at_
      have hi : s.registered call = some (key, lock) := by rw [State.registered_of_call hp, hreg]
      have hlooks : (Request.getOrCreate key).looksUp = true := hs.hashable hi
      have hlookups := State.lookups_set (hasked.registered hi) hp hcalls
      simp only [hlooks, Bool.true_and] at hlookups
      simp only [State.move] at hlookups ⊢
      omega
    | none =>
      -- a call that is not registered has no look to take
      obtain ⟨hlt, -⟩ := List.getElem?_eq_some_iff.mp hp
      have hlookups := State.lookups_set (List.getElem?_eq_getElem (hasked.length ▸ hlt)) hp hcalls
      have hbefore : p.hasLooked = true := Phase.hasLooked_of_free hreg
      have hafter : q.hasLooked = true := by
        rcases hgoes.registration? with hsame | hdone
        · exact Phase.hasLooked_of_free (hsame.trans hreg)
        · obtain ⟨r, rfl⟩ := Phase.isDone_iff.mp hdone
          rfl
      rw [hbefore, hafter] at hlookups hlooked
      simp only [State.move] at hlookups ⊢
      omega
  | finish call outcome =>
    obtain ⟨p, q, hp, hends, rfl⟩ := ends_of_finish hstep
    rw [hnone rfl]
    have hlooked : p.hasLooked = true ∧ q.hasLooked = true := by cases hends <;> exact ⟨rfl, rfl⟩
    obtain ⟨hlt, -⟩ := List.getElem?_eq_some_iff.mp hp
    have hr := List.getElem?_eq_getElem (hasked.length ▸ hlt)
    have hlookups := State.lookups_set (t := s.move call q) hr hp rfl
    rw [hlooked.1, hlooked.2] at hlookups
    simp only [State.move] at hlookups ⊢
    omega

/-! ### What a step removes -/

omit [Closable η] in
/-- Of entries with different keys, those that nothing stands in the place of are those left out. -/
lemma length_filter_isNone {es fs : List (Entry η)} (hsub : fs.Sublist es)
    (distinct : es.Pairwise fun a b => a.key.same b.key = false) :
    fs.length + (es.filter fun e => (fs.find? (·.key.same e.key)).isNone).length = es.length := by
  induction hsub with
  | slnil => rfl
  | @cons fs es e hsub ih =>
    obtain ⟨he, hes⟩ := List.pairwise_cons.mp distinct
    have hout : (fs.find? (·.key.same e.key)).isNone = true := by
      rw [Option.isNone_iff_eq_none, List.find?_eq_none]
      intro f hf
      rw [CacheKey.same_comm, he f (hsub.subset hf)]
      exact Bool.false_ne_true
    have hrest := ih hes
    simp only [List.filter_cons, hout, if_true, List.length_cons]
    omega
  | @cons_cons fs es e hsub ih =>
    obtain ⟨he, hes⟩ := List.pairwise_cons.mp distinct
    have hin : ((e :: fs).find? (·.key.same e.key)).isNone = false := by simp
    have hothers : (es.filter fun x => ((e :: fs).find? (·.key.same x.key)).isNone) =
        es.filter fun x => (fs.find? (·.key.same x.key)).isNone := by
      refine List.filter_congr fun x hx => ?_
      rw [List.find?_cons, he x hx]
    have hrest := ih hes
    simp only [List.filter_cons, hin, hothers, List.length_cons, Bool.false_eq_true, if_false]
    omega

/-- A step that leaves every entry removes none. -/
lemma State.removes_eq_nil (hstep : s.perform a = some t) (hsub : s.entries ⊆ t.entries) :
    s.removes a = [] := by
  rw [removes, hstep]
  simp only [List.map_eq_nil_iff, List.filter_eq_nil_iff]
  intro e he hnone
  have hsome : (t.entry? e.key).isSome = true :=
    List.find?_isSome.mpr ⟨e, hsub he, CacheKey.same_self e.key⟩
  rw [Option.isNone_iff_eq_none] at hnone
  rw [hnone] at hsome
  cases hsome

omit [Closable η] in
lemma State.entries_start (s : State η) (r : Request) : (s.start r).entries.Sublist s.entries := by
  cases change_start s r with
  | join _ _ _ _ entries _ => exact entries
  | register _ _ _ entries _ _ _ => rw [entries]
  | move _ _ on => cases on

/-- A call that goes on removes no entry. -/
lemma Reachable.removes_of_call (hs : Reachable s) (hstep : s.perform a = some t)
    (on : a.call? = some c) : s.removes a = [] := by
  refine State.removes_eq_nil hstep ?_
  cases change_of_perform hstep with
  | join | register => cases on
  | store call key lock h before _ entries _ =>
    have habsent := hs.entry?_of_missing (State.missing_of_call before)
    rw [entries, State.entries_store_of_absent habsent]
    exact List.subset_append_left _ _
  | move _ _ _ _ _ _ _ _ _ _ entries _ | acquire _ _ _ _ _ _ entries _ _ _
  | unlock _ _ _ _ _ _ entries _ _ _ | leave _ _ _ _ _ _ entries _ _ _ =>
    rw [entries]
    exact List.Subset.refl _

/-- What a call removes when it begins is what is missing afterwards. -/
lemma Reachable.length_removes_start (hs : Reachable s) (r : Request) :
    (s.start r).entries.length + (s.removes (.start r)).length = s.entries.length := by
  rw [← length_filter_isNone (s.entries_start r) hs.distinct]
  simp [State.removes, State.perform, State.entry?]

/-- An entry that is removed was created, and an entry that was created is cached or removed. -/
lemma Reachable.entries_step (hs : Reachable s) (hstep : s.perform a = some t) :
    t.entries.length + (s.removes a).length + s.stats.creations =
      s.entries.length + t.stats.creations := by
  cases a with
  | start r =>
    cases hstep
    obtain ⟨p, -, -, hstats⟩ := start_counts s r
    rw [hs.length_removes_start r, hstats]
  | advance call =>
    rw [hs.removes_of_call hstep rfl]
    obtain ⟨p, q, u, hp, hgoes, rfl⟩ := goesOn_of_advance hstep
    cases hgoes with
    | @store key lock h =>
      have habsent := hs.entry?_of_missing (State.missing_of_call hp)
      have hentries : (s.store ⟨key, h⟩).entries = s.entries ++ [⟨key, h⟩] :=
        State.entries_store_of_absent habsent
      simp only [State.move, State.say, hentries, List.length_append]
      simp only [State.store, List.length_cons, List.length_nil]
      omega
    | @release e rest why =>
      have hentries := (release_frame s e).2.1
      simp [State.move, hentries, release_stats]
    | _ => rfl
  | finish call outcome =>
    rw [hs.removes_of_call hstep rfl]
    obtain ⟨p, q, hp, hends, rfl⟩ := ends_of_finish hstep
    rfl

/-- Nothing but a request to do so makes a call remove an entry. -/
lemma State.evicts_of_removes {i : Nat} {e : Entry η} (h : (i, e) ∈ s.removes (.start r)) :
    i = s.calls.length ∧ r.evicts e.key = true := by
  simp only [removes, perform, Action.call?, Option.getD_none, List.mem_map, List.mem_filter,
    Prod.mk.injEq, Option.isNone_iff_eq_none] at h
  obtain ⟨e, ⟨he, habsent⟩, rfl, rfl⟩ := h
  refine ⟨rfl, ?_⟩
  by_contra hkept
  rw [Bool.not_eq_true] at hkept
  have hthere {es : List (Entry η)} (hmem : e ∈ es) :
      (PlainMap.cached? es e.key).isSome = true :=
    List.find?_isSome.mpr ⟨e, hmem, CacheKey.same_self e.key⟩
  have hstays : (PlainMap.cached? (s.start r).entries e.key).isSome = true := by
    have hsettles := settles_start s r
    rw [State.decision?] at hsettles
    split_ifs at hsettles
    · cases hsettles with
      | decided _ result _ acts _ =>
        cases hgets : r.gets e.key with
        | false => rw [PlainMap.cached?_call acts hgets hkept, hthere he]
        | true =>
          obtain ⟨k, rfl, -⟩ := Request.eq_getOrCreate_of_gets hgets
          rcases PlainMap.getOrCreate_map acts with hsame | ⟨handle, hmore⟩
          · exact hthere (hsame ▸ he)
          · exact hthere (hmore ▸ List.mem_append_left _ he)
    · cases hsettles with
      | undecided entries _ => exact hthere (entries ▸ he)
  have hgone : PlainMap.cached? (s.start r).entries e.key = none := habsent
  rw [hgone] at hstays
  cases hstays

/-- A call that is to remove the entries of an actor ends with the number of those it removes. If it
cannot tell which they are, it removes none. -/
lemma Reachable.verdict_invalidateActor (hs : Reachable s) (actor : String) :
    (s.start (.invalidateActor actor)).verdict s.calls.length =
        some (.evicted (s.removes (.start (.invalidateActor actor))).length) ∨
      (∃ kind, (s.start (.invalidateActor actor)).verdict s.calls.length =
        some (.noActor kind)) ∧ s.removes (.start (.invalidateActor actor)) = [] := by
  have hcount := hs.length_removes_start (.invalidateActor actor)
  rw [State.start, State.startActorInvalidation] at hcount ⊢
  split at hcount
  · next e _ =>
    refine .inr ⟨⟨e.key.kindName, ?_⟩, ?_⟩
    · simp [State.verdict, view, State.join, Phase.verdict?]
    · rw [← List.length_eq_zero_iff]
      simp only [State.join] at hcount
      omega
  · refine .inl ?_
    have hsplit := List.length_eq_length_filter_add (l := s.entries)
      (fun e => e.key.actor? == some actor)
    simp only [State.join] at hcount
    have hnumber : (s.removes (.start (.invalidateActor actor))).length =
        (s.entries.filter fun e => e.key.actor? == some actor).length := by omega
    rw [hnumber]
    simp [State.verdict, view, State.join, Phase.verdict?, State.evictionResult]

/-! ### The balances of a run -/

section
variable {as : List (Action η)}

lemma State.seen_snoc {α : Type} (f : State η → Action η → List α)
    (has : s.performAll as = some t) : s.seen f (as ++ [a]) = s.seen f as ++ f t a := by
  induction as generalizing s with
  | nil =>
    cases has
    simp only [List.nil_append, seen]
    cases t.perform a <;> simp
  | cons b as ih =>
    obtain ⟨mid, hstep, has⟩ := State.performAll_cons.mp has
    simp only [List.cons_append, seen, hstep, ih has, List.append_assoc]

/-- A call that is decided stays so. -/
lemma Reachable.verdict_run (hs : Reachable s) (has : s.performAll as = some t) {i : Nat}
    {r : Result η} (hi : s.verdict i = some r) : t.verdict i = some r := by
  obtain ⟨results, hrun⟩ := hs.explains has
  exact hrun.decided.mpr (.inl hi)

/-- Every entry that a run removes was to be removed by the call that did so. -/
lemma evicts_of_removed (has : State.empty.performAll as = some t) {i : Nat} {e : Entry η}
    (h : (i, e) ∈ State.empty.removed as) :
    ∃ r, (requests as)[i]? = some r ∧ r.evicts e.key = true := by
  induction as using List.reverseRecOn generalizing t with
  | nil => cases h
  | append_singleton as a ih =>
    obtain ⟨s, hpast, hstep⟩ := State.performAll_snoc.mp has
    rw [State.removed, State.seen_snoc _ hpast, List.mem_append] at h
    rcases h with h | h
    · obtain ⟨r, hr, hevicts⟩ := ih hpast h
      exact ⟨r, requests_snoc_eq_some.mpr (.inl hr), hevicts⟩
    · cases a with
      | start r =>
        obtain ⟨hnew, hevicts⟩ := State.evicts_of_removes h
        have hlast : i = (requests as).length := by rw [hnew, (asked_of_run hpast).length]
        exact ⟨r, requests_snoc_eq_some.mpr (.inr ⟨hlast, rfl⟩), hevicts⟩
      | advance | finish =>
        rw [(Reachable.empty.performAll hpast).removes_of_call hstep rfl] at h
        cases h

lemma removedBy_snoc (has : State.empty.performAll as = some s) (i : Nat) :
    State.empty.removedBy (as ++ [a]) i =
      State.empty.removedBy as i + (s.removes a).countP (·.1 == i) := by
  rw [State.removedBy, State.removed, State.seen_snoc _ has, List.countP_append]
  rfl

/-- Entries are removed when a call begins, and by that call. -/
lemma Reachable.countP_removes (hs : Reachable s) (hstep : s.perform a = some t) (i : Nat) :
    (s.removes a).countP (·.1 == i) = if i = s.calls.length then (s.removes a).length else 0 := by
  cases a with
  | start r =>
    split_ifs with hi
    · rw [List.countP_eq_length]
      rintro ⟨j, e⟩ hj
      rw [(State.evicts_of_removes hj).1, hi]
      exact beq_self_eq_true _
    · rw [List.countP_eq_zero]
      rintro ⟨j, e⟩ hj
      rw [(State.evicts_of_removes hj).1, beq_iff_eq]
      exact fun h => hi h.symm
  | advance | finish =>
    rw [hs.removes_of_call hstep rfl]
    simp

/-- A call that is to remove the entries of an actor is decided with the number of those that it
removes in the run. -/
lemma verdict_of_invalidateActor (has : State.empty.performAll as = some t) {i : Nat}
    {actor : String} (hi : (requests as)[i]? = some (.invalidateActor actor)) :
    t.verdict i = some (.evicted (State.empty.removedBy as i)) ∨
      (∃ kind, t.verdict i = some (.noActor kind)) ∧ State.empty.removedBy as i = 0 := by
  induction as using List.reverseRecOn generalizing t with
  | nil => cases hi
  | append_singleton as a ih =>
    obtain ⟨s, hpast, hstep⟩ := State.performAll_snoc.mp has
    have hs := Reachable.empty.performAll hpast
    have hlength := (asked_of_run hpast).length
    rw [removedBy_snoc hpast, hs.countP_removes hstep]
    rcases requests_snoc_eq_some.mp hi with hi | ⟨hlast, hrequest⟩
    · have hold := (List.getElem?_eq_some_iff.mp hi).1
      have hrun : s.performAll [a] = some t := by
        rw [State.performAll_cons]
        exact ⟨t, hstep, rfl⟩
      rw [if_neg (by omega), Nat.add_zero]
      rcases ih hpast hi with hcount | ⟨⟨kind, hkind⟩, hzero⟩
      · exact .inl (hs.verdict_run hrun hcount)
      · exact .inr ⟨⟨kind, hs.verdict_run hrun hkind⟩, hzero⟩
    · -- the call begins with the last step, and so far nothing was removed by it
      cases a with
      | start r =>
        cases hrequest
        cases hstep
        have hzero : State.empty.removedBy as i = 0 := by
          rw [State.removedBy, List.countP_eq_zero]
          rintro ⟨j, e⟩ hj hsame
          obtain ⟨r, hr, -⟩ := evicts_of_removed hpast hj
          have hbefore := (List.getElem?_eq_some_iff.mp hr).1
          rw [beq_iff_eq] at hsame
          simp only at hsame
          omega
        have hnew : i = s.calls.length := by omega
        rw [if_pos hnew, hzero, Nat.zero_add, hnew]
        rcases hs.verdict_invalidateActor actor with hcount | ⟨hkind, hnone⟩
        · exact .inl hcount
        · exact .inr ⟨hkind, by rw [hnone, List.length_nil]⟩
      | advance | finish => cases hrequest

/-- After a run of any calls, the counts balance. -/
theorem balanced_of_run (has : State.empty.performAll as = some t) : Balanced as t := by
  have hcounts : t.stats.misses = t.stats.creations + t.stats.failures +
        as.countP Action.interrupts + t.calls.countP Phase.isMissing ∧
      t.stats.hits + t.stats.misses = t.lookups (requests as) ∧
      t.entries.length + (State.empty.removed as).length = t.stats.creations := by
    induction as using List.reverseRecOn generalizing t with
    | nil =>
      cases has
      exact ⟨rfl, rfl, rfl⟩
    | append_singleton as a ih =>
      obtain ⟨s, has, hstep⟩ := State.performAll_snoc.mp has
      have hs := Reachable.empty.performAll has
      obtain ⟨hmisses, hlookups, hentries⟩ := ih has
      refine ⟨?_, ?_, ?_⟩
      · rw [List.countP_append, List.countP_singleton]
        exact misses_step hstep hmisses
      · rw [requests_snoc]
        exact lookups_step hs (asked_of_run has) hstep hlookups
      · have hstepped := hs.entries_step hstep
        rw [State.removed, State.seen_snoc _ has, List.length_append]
        rw [State.removed] at hentries
        omega
  obtain ⟨hmisses, hlookups, hentries⟩ := hcounts
  refine ⟨hmisses, hlookups, hentries, evicts_of_removed has, fun {i actor r} hi hr => ?_⟩
  have hverdict := State.verdict_of_result? hr
  rcases verdict_of_invalidateActor has hi with hcount | ⟨⟨kind, hkind⟩, hzero⟩
  · exact .inl (Option.some.inj (hverdict.symm.trans hcount))
  · exact .inr ⟨⟨kind, Option.some.inj (hverdict.symm.trans hkind)⟩, hzero⟩

end

/-- The statistics balance after every step of every run of calls, and after every step of scripts,
whose creations make calls of their own. -/
theorem statistics_balance :
    (∀ {as : List (Action η)} {s : State η}, State.empty.performAll as = some s → Balanced as s) ∧
    ∀ scripts : List (Script η),
      State.empty.performAll (Script.stepsAll .empty scripts) =
          some (Script.runAll .empty scripts).1 ∧
        ∀ as, as <+: Script.stepsAll .empty scripts →
          ∃ s, State.empty.performAll as = some s ∧ Balanced as s := by
  refine ⟨balanced_of_run, fun scripts => ?_⟩
  have hrun := Script.performAll_stepsAll (.empty : State η) scripts
  refine ⟨hrun, fun as hinitial => ?_⟩
  obtain ⟨s, hs⟩ := exists_of_prefix hinitial hrun
  exact ⟨s, hs, balanced_of_run hs⟩

/-- While a creation runs, another one within it is interrupted. The handle is stored and found, and
then the sessions of the actor are invalidated. -/
theorem statistics_balance_invalidated :
    let key := CacheKey.session ⟨"qa", "f1"⟩
    let other := CacheKey.session ⟨"qa", "f2"⟩
    let stop := Fault.interrupted (.named "KeyboardInterrupt") "stop"
    let run : List (Action Nat) := [.start (.getOrCreate key), .advance 0, .advance 0, .advance 0,
      .start (.getOrCreate other), .advance 1, .advance 1, .advance 1, .finish 1 (.error stop),
      .finish 0 (.ok 7), .advance 0, .start (.getOrCreate key), .start (.invalidateActor "qa"),
      .advance 3, .advance 3]
    let nested : List (Script Nat) := [.create key [.create other [] (.error stop)] (.ok 7),
      .request (.invalidateActor "qa")]
    (∃ s : State Nat, State.empty.performAll run = some s ∧
      s.stats.misses = s.stats.creations + s.stats.failures + 1 ∧
      s.stats.hits + s.stats.misses = 3 ∧
      s.entries.length + (State.empty.removed run).length = s.stats.creations ∧
      State.empty.removedBy run 3 = 1) ∧
    ∃ s : State Nat, Balanced (Script.stepsAll .empty nested) s := by
  intro key other stop run nested
  let raised := Raised.interrupted (.named "KeyboardInterrupt") "stop"
  have hcalls : State.callsAfter run = some ([.unlocking key 0 (.handle 7),
      .unlocking other 1 (.raised raised), .done (.handle 7), .done (.evicted 1)] :
        List (Phase Nat)) := by decide
  obtain ⟨s, -, hrun, hcalls⟩ := exists_of_callsAfter hcalls
  have hbalanced := statistics_balance.1 hrun
  have hinterrupted : run.countP Action.interrupts = 1 := by decide
  have hmissing : s.calls.countP Phase.isMissing = 0 := by
    rw [hcalls]
    decide
  have hlookups : s.lookups (requests run) = 3 := by
    rw [State.lookups, hcalls]
    decide
  have hresult : s.result? 3 = some (.evicted 1) := by simp [State.result?, hcalls]
  have hmisses := hbalanced.misses
  rw [hinterrupted, hmissing] at hmisses
  refine ⟨⟨s, hrun, hmisses, by rw [hbalanced.lookups, hlookups], hbalanced.entries, ?_⟩, ?_⟩
  · have hasked : (requests run)[3]? = some (.invalidateActor "qa") := rfl
    rcases hbalanced.evicted hasked hresult with hcount | ⟨⟨kind, hkind⟩, -⟩
    · simpa using hcount.symm
    · cases hkind
  · obtain ⟨-, hprefixes⟩ := statistics_balance.2 nested
    obtain ⟨s, -, hs⟩ := hprefixes _ (List.prefix_refl _)
    exact ⟨s, hs⟩

end

end TaggedSuite.Session.Cache
