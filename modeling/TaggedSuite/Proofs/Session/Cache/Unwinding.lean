import TaggedSuite.Proofs.Session.Cache.Registrations
import TaggedSuite.Proofs.Session.Cache.Scripts

/-!
# Locks come and go with the calls

The locks that are there, the calls that are registered for them and the requests of the run are
three accounts of the same thing. They agree after every step, whatever the calls find, create, fail
with or are interrupted by. Scripts that do not wait for themselves take all of their calls to their
ends, so no lock is left when they are done.
-/
namespace TaggedSuite.Session.Cache

variable {η : Type}

/-- From one state to a later one, calls that were there are where they were, and all others have
come to their ends. -/
structure Completes (s t : State η) : Prop where
  others : ∀ {i : Nat} {p : Phase η}, s.calls[i]? = some p → t.calls[i]? = some p
  ended : ∀ {i : Nat} {p : Phase η}, s.calls.length ≤ i → t.calls[i]? = some p → p.isDone = true

/-- Every registered call is registered under one of the keys. -/
def State.Within (s : State η) (busy : List CacheKey) : Prop :=
  ∀ i k lock, s.registered i = some (k, lock) → busy.any (·.same k) = true

section
variable [Closable η]

/-- The state in which a call for a key comes to rest. -/
def State.opened (s : State η) (key : CacheKey) : State η :=
  (s.start (.getOrCreate key)).settle s.calls.length

/-- The state in which a call comes to rest when its creation ends. -/
def State.ended (s : State η) (call : Nat) (outcome : Outcome η) : State η :=
  ((s.finish call outcome).getD s).settle call

lemma State.getOrCreate_eq {α : Type} (s : State η) (key : CacheKey)
    (create : State η → State η × Outcome η × α) :
    s.getOrCreate key create =
      if (s.opened key).isCreating s.calls.length then
        let (t, outcome, left) := create (s.opened key)
        let u := t.ended s.calls.length outcome
        (u, u.result? s.calls.length, some left)
      else (s.opened key, (s.opened key).result? s.calls.length, none) :=
  rfl

end

/-- A call has taken steps of its own until there was none to take. -/
structure Rests [Closable η] (s : State η) (call : Nat) (p : Phase η) (t : State η)
    (q : Phase η) : Prop where
  calls : t.calls = s.calls.set call q
  stuck : t.advance call = none
  nearer : q.stepsLeft ≤ p.stepsLeft
  registered : q.registration? = p.registration? ∨ q.isDone = true

section
variable [Closable η] {s t u : State η} {p q : Phase η} {call i lock : Nat} {key k : CacheKey}
  {busy : List CacheKey}

/-! ### Going on as far as possible -/

lemma GoesOn.stepsLeft_lt (h : GoesOn s p q t) : q.stepsLeft < p.stepsLeft := by
  cases h <;> simp [Phase.stepsLeft]

lemma State.advanceUpTo_rests {n : Nat} (hc : s.calls[call]? = some p) (hn : p.stepsLeft ≤ n) :
    ∃ q, Rests s call p (s.advanceUpTo call n) q := by
  induction n generalizing s p with
  | zero => cases p <;> simp [Phase.stepsLeft] at hn
  | succ n ih =>
    rw [advanceUpTo]
    cases h : s.advance call with
    | none =>
      obtain ⟨hlt, hp⟩ := List.getElem?_eq_some_iff.mp hc
      refine ⟨p, ?_, h, Nat.le_refl _, .inl rfl⟩
      simp [← hp]
    | some t =>
      obtain ⟨p', q, u, hp', hgoes, rfl⟩ := goesOn_of_advance h
      obtain rfl : p = p' := Option.some.inj (hc.symm.trans hp')
      obtain ⟨hlt, -⟩ := List.getElem?_eq_some_iff.mp hc
      have hcalls := hgoes.calls
      have hmoved := State.call_move (s := u) (hcalls ▸ hlt) q
      have hless := hgoes.stepsLeft_lt
      obtain ⟨r, hr⟩ := ih hmoved (by omega)
      have hnearer := hr.nearer
      refine ⟨r, ?_, hr.stuck, by omega, ?_⟩
      · rw [hr.calls, State.move, List.set_set, hcalls]
      · rcases hr.registered with hsame | hdone
        · rcases hgoes.registration? with hbefore | hended
          · exact .inl (hsame.trans hbefore)
          · -- what is done stays done
            cases q with
            | done res =>
              have hleft : r.stepsLeft ≤ 1 := hnearer
              cases r <;> simp [Phase.stepsLeft] at hleft
              exact .inr rfl
            | _ => cases hended
        · exact .inr hdone

/-- `settle` takes a call as far as it gets by itself. -/
lemma State.settle_rests (hc : s.calls[call]? = some p) :
    ∃ q, Rests s call p (s.settle call) q := by
  rw [State.settle, hc]
  exact advanceUpTo_rests hc (Nat.le_refl _)

/-- A call that does not go on has ended, runs its creation, or waits for a lock that is held. -/
lemma State.of_stuck (hc : s.calls[call]? = some p) (hstuck : s.advance call = none) :
    p.isDone = true ∨ (∃ key lock, p = .creating key lock) ∨
      ∃ key lock, p = .waiting key lock ∧ lock ∈ s.held := by
  by_cases hdone : p.isDone = true
  · exact .inl hdone
  · have hopen : p.isDone = false := by simpa using hdone
    rcases canStep_or_waiting hc hopen with (⟨t, ht⟩ | hends) | hwaits
    · have hnone : s.perform (.advance call) = none := hstuck
      rw [hnone] at ht
      cases ht
    · obtain ⟨t, ht⟩ := hends (.error (.interrupted .badValue ""))
      have hfinish : s.finish call (.error (.interrupted .badValue "")) = some t := ht
      obtain ⟨p', q, hp', hends, -⟩ := ends_of_finish hfinish
      obtain rfl : p' = p := Option.some.inj (hp'.symm.trans hc)
      cases hends with
      | interrupted | failed => exact .inr (.inl ⟨_, _, rfl⟩)
    · exact .inr (.inr hwaits)

/-- A call waits because another one is registered under its key. -/
lemma Reachable.exists_other (h : Reachable s) (hc : s.calls[call]? = some (.waiting key lock))
    (hheld : lock ∈ s.held) :
    ∃ i k lock', i ≠ call ∧ s.registered i = some (k, lock') ∧ k.same key = true := by
  obtain ⟨i, howned⟩ := h.locks.held.mp hheld
  obtain ⟨k, hi⟩ := State.registered_of_owned howned
  obtain ⟨r, hr, hlock⟩ :=
    h.locks.pending?_of_registered (State.registered_of_call hc) (CacheKey.same_self key)
  refine ⟨i, k, lock, ?_, hi, (h.locks.registered_iff hr hi).mp hlock.symm⟩
  rintro rfl
  rw [State.owned_of_call hc] at howned
  cases howned

/-! ### Scripts take their calls to the end -/

omit [Closable η] in
lemma Completes.refl (s : State η) : Completes s s := by
  refine ⟨id, fun {i p} hi hp => ?_⟩
  obtain ⟨hlt, -⟩ := List.getElem?_eq_some_iff.mp hp
  omega

omit [Closable η] in
lemma Completes.trans (h : Completes s t) (h' : Completes t u) : Completes s u := by
  refine ⟨fun hi => h'.others (h.others hi), fun {i p} hi hp => ?_⟩
  by_cases hlt : i < t.calls.length
  · have hmid := List.getElem?_eq_getElem hlt
    have hsame := h'.others hmid
    rw [hp] at hsame
    exact h.ended hi (hmid.trans hsame.symm)
  · exact h'.ended (by omega) hp

omit [Closable η] in
lemma Completes.within (h : Completes s t) (hwithin : s.Within busy) : t.Within busy := by
  intro i k lock hi
  obtain ⟨p, hp, hreg⟩ := view_eq_some.mp hi
  by_cases hlt : i < s.calls.length
  · have hbefore := List.getElem?_eq_getElem hlt
    have hsame := h.others hbefore
    obtain rfl := Option.some.inj (hp.symm.trans hsame)
    exact hwithin i k lock (by rw [State.registered_of_call hbefore, hreg])
  · have hdone := h.ended (by omega) hp
    rw [Phase.isDone_of_registration? hreg] at hdone
    cases hdone

omit [Closable η] in
lemma State.Within.free (h : s.Within busy) (hkey : busy.all (!·.same key) = true) :
    s.Free key := by
  intro i k lock hi
  obtain ⟨b, hb, hsame⟩ := List.any_eq_true.mp (h i k lock hi)
  have hother := List.all_eq_true.mp hkey b hb
  by_contra hk
  rw [Bool.not_eq_false] at hk
  rw [CacheKey.same_trans hsame hk] at hother
  cases hother

omit [Closable η] in
/-- A call that begins and ends is all that is added. -/
lemma Completes.of_append (calls : t.calls = s.calls ++ [q]) (hdone : q.isDone = true) :
    Completes s t := by
  refine ⟨fun {i r} hi => ?_, fun {i r} hi hr => ?_⟩
  · obtain ⟨hlt, -⟩ := List.getElem?_eq_some_iff.mp hi
    rw [calls, List.getElem?_append_left hlt, hi]
  · rw [calls, List.getElem?_append_right hi] at hr
    obtain rfl : r = q := by simpa using List.mem_of_getElem? hr
    exact hdone

omit [Closable η] in
/-- A call that begins comes to its end after the calls that it waits for. -/
lemma Completes.of_set (h : Completes t u) (calls : t.calls = s.calls ++ [p]) {v : State η}
    (ended : v.calls = u.calls.set s.calls.length q) (hdone : q.isDone = true) :
    Completes s v := by
  refine ⟨fun {i r} hi => ?_, fun {i r} hi hr => ?_⟩
  · obtain ⟨hlt, -⟩ := List.getElem?_eq_some_iff.mp hi
    have hmid : t.calls[i]? = some r := by rw [calls, List.getElem?_append_left hlt, hi]
    rw [ended, List.getElem?_set_ne (by omega), h.others hmid]
  · by_cases hsame : i = s.calls.length
    · rw [ended, hsame, List.getElem?_set_self'] at hr
      simp only [Option.map_eq_map, Option.map_eq_some_iff] at hr
      obtain ⟨_, -, rfl⟩ := hr
      exact hdone
    · rw [ended, List.getElem?_set_ne (by omega)] at hr
      exact h.ended (by simp [calls]; omega) hr

/-- A call ends if all it does is go on from where it is registered for nothing. -/
lemma Rests.isDone_of_free (h : Rests s call p t q) (hcall : call < s.calls.length)
    (hfree : p.registration? = none) : q.isDone = true := by
  have hc : t.calls[call]? = some q := by simp [h.calls, hcall]
  rcases h.registered with hsame | hdone
  · rw [hfree] at hsame
    rcases State.of_stuck hc h.stuck with hdone | ⟨_, _, rfl⟩ | ⟨_, _, rfl, -⟩
    · exact hdone
    · cases hsame
    · cases hsame
  · exact hdone

/-- A call that asks for no key comes to its end. -/
lemma Completes.request (r : Request) (hother : ∀ key, r ≠ .getOrCreate key) :
    Completes s (s.request r).1 := by
  rw [State.request]
  cases change_start s r with
  | join r p free calls _ _ =>
    have hc : (s.start r).calls[s.calls.length]? = some p := by simp [calls]
    obtain ⟨q, hrests⟩ := State.settle_rests hc
    refine .of_append ?_ (hrests.isDone_of_free (by simp [calls]) free)
    simp [hrests.calls, calls]
  | register key => exact absurd rfl (hother key)
  | move _ _ on => cases on

/-- A call for a key comes to its end, or stays registered under the key. -/
lemma State.opened_calls (s : State η) (key : CacheKey) :
    ∃ q, (s.opened key).calls = s.calls ++ [q] ∧ (s.opened key).advance s.calls.length = none ∧
      (q.isDone = true ∨ key.isHashable = true ∧ ∃ lock, q.registration? = some (key, lock)) := by
  have happend {p q : Phase η} (calls : (s.start (.getOrCreate key)).calls = s.calls ++ [p])
      (h : Rests (s.start (.getOrCreate key)) s.calls.length p (s.opened key) q) :
      (s.opened key).calls = s.calls ++ [q] := by
    rw [h.calls, calls]
    simp
  have hchange := change_start s (.getOrCreate key)
  generalize hr : Request.getOrCreate key = r at hchange
  cases hchange with
  | join r p free calls _ _ =>
    subst hr
    have hc : (s.start (.getOrCreate key)).calls[s.calls.length]? = some p := by simp [calls]
    obtain ⟨q, hrests⟩ := State.settle_rests hc
    have hdone := hrests.isDone_of_free (by simp [calls]) free
    exact ⟨q, happend calls hrests, hrests.stuck, .inl hdone⟩
  | register key' hashable calls _ _ _ _ =>
    obtain rfl : key = key' := by simpa using hr
    have hc : (s.start (.getOrCreate key)).calls[s.calls.length]? =
        some (.waiting key (s.register key).2) := by simp [calls]
    obtain ⟨q, hrests⟩ := State.settle_rests hc
    refine ⟨q, happend calls hrests, hrests.stuck, ?_⟩
    rcases hrests.registered with hsame | hdone
    · exact .inr ⟨hashable, _, hsame⟩
    · exact .inl hdone
  | move _ _ on => cases on

lemma Reachable.opened (h : Reachable s) (key : CacheKey) : Reachable (s.opened key) :=
  h.performAll (s.performAll_opening (.getOrCreate key))

/-- A call for a key that no other call is registered under comes to its end or to its creation. -/
lemma Reachable.opened_of_free (h : Reachable s) (hfree : s.Free key) :
    ∃ q, (s.opened key).calls = s.calls ++ [q] ∧
      (q.isDone = true ∨ ∃ lock, q = .creating key lock) := by
  obtain ⟨q, hcalls, hstuck, hdone | ⟨-, lock, hreg⟩⟩ := s.opened_calls key
  · exact ⟨q, hcalls, .inl hdone⟩
  · have hq : (s.opened key).calls[s.calls.length]? = some q := by simp [hcalls]
    refine ⟨q, hcalls, ?_⟩
    rcases State.of_stuck hq hstuck with hdone | ⟨_, lock, rfl⟩ | ⟨_, lock, rfl, hheld⟩
    · exact .inl hdone
    · cases hreg
      exact .inr ⟨_, rfl⟩
    · -- it would wait for a call that was registered under the key before
      cases hreg
      obtain ⟨i, k, lock', hne, hi, hk⟩ := (h.opened key).exists_other hq hheld
      rw [State.registered_append hcalls, if_neg hne] at hi
      rw [hfree i k lock' hi] at hk
      cases hk

/-- However its creation ends, a call comes to its end then. -/
lemma State.ended_calls (hc : s.calls[call]? = some (.creating key lock)) (outcome : Outcome η) :
    ∃ q, (s.ended call outcome).calls = s.calls.set call q ∧ q.isDone = true := by
  obtain ⟨p, hends⟩ := ends_of_outcome key lock outcome
  obtain ⟨hlt, -⟩ := List.getElem?_eq_some_iff.mp hc
  have hp := State.call_move hlt p
  obtain ⟨q, hrests⟩ := State.settle_rests hp
  have hcalls : ((s.move call p).settle call).calls = s.calls.set call q := by
    rw [hrests.calls, State.move, List.set_set]
  have hq : ((s.move call p).settle call).calls[call]? = some q := by simp [hcalls, hlt]
  rw [State.ended, finish_of_ends hc hends, Option.getD_some]
  refine ⟨q, hcalls, ?_⟩
  have hstart : p.stepsLeft ≤ 5 := by cases hends <;> simp [Phase.stepsLeft]
  have hnear := Nat.le_trans hrests.nearer hstart
  rcases State.of_stuck hq hrests.stuck with hdone | ⟨_, _, rfl⟩ | ⟨_, _, rfl, -⟩
  · exact hdone
  · simp [Phase.stepsLeft] at hnear
  · simp [Phase.stepsLeft] at hnear

mutual

/-- A script that asks for none of the keys under which calls are registered, nor within a creation
for its own key, takes its calls to their ends. -/
theorem Script.completes {s : State η} {busy : List CacheKey} (hs : Reachable s)
    (hwithin : s.Within busy) : (script : Script η) →
    Script.unfolds busy script = true → Completes s (Script.run s script).1
  | .request r, hunfolds => by
    refine Completes.request r ?_
    rintro key rfl
    cases hunfolds
  | .create key during outcome, hunfolds => by
    rw [Script.unfolds, Bool.and_eq_true] at hunfolds
    obtain ⟨hkey, hunfolds⟩ := hunfolds
    have hmid := hs.opened key
    obtain ⟨q, hcalls, hq⟩ := hs.opened_of_free (hwithin.free hkey)
    rw [Script.run, State.getOrCreate_eq]
    generalize s.opened key = mid at hmid hcalls
    have hc : mid.calls[s.calls.length]? = some q := by simp [hcalls]
    rcases hq with hdone | ⟨lock, rfl⟩
    · have hrunning : mid.isCreating s.calls.length = false := by
        cases q with
        | creating => cases hdone
        | _ => simp [State.isCreating, hc]
      rw [hrunning, if_neg Bool.false_ne_true]
      exact .of_append hcalls hdone
    · have hrunning : mid.isCreating s.calls.length = true := by simp [State.isCreating, hc]
      rw [hrunning, if_pos rfl]
      have hbusy : mid.Within (key :: busy) := by
        intro i k lock' hi
        rw [State.registered_append hcalls] at hi
        rw [List.any_cons, Bool.or_eq_true]
        split_ifs at hi
        · cases hi
          exact .inl (CacheKey.same_self key)
        · exact .inr (hwithin i k lock' hi)
      have hduring := Script.completesAll hmid hbusy during hunfolds
      obtain ⟨r, hended, hdone⟩ := State.ended_calls (hduring.others hc) outcome
      exact hduring.of_set hcalls hended hdone

/-- Scripts one after the other take their calls to their ends. -/
theorem Script.completesAll {s : State η} {busy : List CacheKey} (hs : Reachable s)
    (hwithin : s.Within busy) : (scripts : List (Script η)) →
    Script.unfoldsAll busy scripts = true → Completes s (Script.runAll s scripts).1
  | [], _ => .refl s
  | script :: rest, hunfolds => by
    rw [Script.unfoldsAll, Bool.and_eq_true] at hunfolds
    have hfirst := Script.completes hs hwithin script hunfolds.1
    have hmid := hs.performAll (Script.performAll_steps s script)
    exact hfirst.trans (Script.completesAll hmid (hfirst.within hwithin) rest hunfolds.2)

end

/-- Whatever steps calls take, the locks are those of the calls that are registered at that time,
and a call keeps its lock until it has a result. The same holds after every step of scripts, and
none is left when scripts are done whose creations do not ask for their own keys. -/
theorem locks_accounted :
    (∀ {as : List (Action η)} {s : State η}, State.empty.performAll as = some s →
      Accounted (requests as) s ∧
        ∀ {bs : List (Action η)} {t : State η}, s.performAll bs = some t →
          ∀ {i lock : Nat} {key : CacheKey}, s.registered i = some (key, lock) →
            t.registered i = some (key, lock) ∨ (t.result? i).isSome = true) ∧
    ∀ scripts : List (Script η),
      State.empty.performAll (Script.stepsAll .empty scripts) =
          some (Script.runAll .empty scripts).1 ∧
        (∀ as, as <+: Script.stepsAll .empty scripts →
          ∃ s, State.empty.performAll as = some s ∧ Accounted (requests as) s) ∧
        (Script.unfoldsAll [] scripts = true → (Script.runAll .empty scripts).1.Idle) := by
  refine ⟨fun has => ⟨accounted_of_run has, fun hbs _ _ _ hi => registered_run hbs hi⟩, ?_⟩
  intro scripts
  have hrun := Script.performAll_stepsAll (.empty : State η) scripts
  refine ⟨hrun, fun as hinitial => ?_, fun hunfolds => ?_⟩
  · obtain ⟨s, hs⟩ := exists_of_prefix hinitial hrun
    exact ⟨s, hs, accounted_of_run hs⟩
  · have hwithin : (.empty : State η).Within [] := by
      intro i k lock hi
      cases hi
    have hdone := Script.completesAll Reachable.empty hwithin scripts hunfolds
    refine (Reachable.empty.performAll hrun).locks.idle fun i => ?_
    by_contra hsome
    obtain ⟨⟨key, lock⟩, hi⟩ := Option.ne_none_iff_exists'.mp hsome
    have hbusy := hdone.within hwithin i key lock hi
    cases hbusy

/-- Two calls race for a key whose first creation is interrupted, while the cache is cleared: both
share the lock. A creation that creates under another key, is interrupted there and fails leaves no
lock. -/
theorem locks_accounted_interrupted :
    let key := CacheKey.session ⟨"qa", "f1"⟩
    let other := CacheKey.session ⟨"qa", "f2"⟩
    let stop := Fault.interrupted (.named "KeyboardInterrupt") "stop"
    let nested : List (Script Nat) := [.create key [.create other [.request .clear] (.error stop),
      .request (.invalidate key)] (.error (.failed .badValue "no session"))]
    (∃ s : State Nat, State.empty.performAll [.start (.getOrCreate key), .start (.getOrCreate key),
        .advance 0, .advance 0, .advance 0, .start .clear, .finish 0 (.error stop)] = some s ∧
      ∃ p, s.pending? key = some p ∧ p.lock = 0 ∧ p.users = 2) ∧
    (Script.runAll .empty nested).1.pending = [] := by
  intro key other stop nested
  let raised := Raised.interrupted (.named "KeyboardInterrupt") "stop"
  have hcalls : State.callsAfter [.start (.getOrCreate key), .start (.getOrCreate key), .advance 0,
      .advance 0, .advance 0, .start .clear, .finish 0 (.error stop)] =
      some ([.unlocking key 0 (.raised raised), .waiting key 0, .releasing [] (.all 0)] :
        List (Phase Nat)) := by decide
  obtain ⟨s, -, hrun, hcalls⟩ := exists_of_callsAfter hcalls
  have hfirst : s.registered 0 = some (key, 0) :=
    State.registered_of_call (p := .unlocking key 0 (.raised raised)) (by simp [hcalls])
  obtain ⟨haccounted, -⟩ := locks_accounted.1 hrun
  obtain ⟨p, hp, hlock⟩ := haccounted.shared hfirst (CacheKey.same_self key)
  obtain ⟨husers, -⟩ := haccounted.counted hp
  have hboth : s.registrations key = 2 := by
    rw [State.registrations, hcalls]
    decide
  obtain ⟨-, -, hdone⟩ := locks_accounted.2 nested
  exact ⟨⟨s, hrun, p, hp, hlock, by rw [husers, hboth]⟩, (hdone (by decide)).pending⟩

end

end TaggedSuite.Session.Cache
