import TaggedSuite.Proofs.Session.Cache.Origins
import TaggedSuite.Proofs.Session.Cache.Progress
import TaggedSuite.Proofs.Session.Cache.Sharing

/-!
# Who is registered for a lock

A call that gets or creates a handle registers under its key, unless it ends with its first look,
and stays registered until it ends. The lock under a key is there for these calls: it comes with the
first of them, all of them share it and are counted with it, and it goes with the last one.
-/
namespace TaggedSuite.Session.Cache

variable {η : Type}

namespace State

/-- The calls that are registered under a key, by their number. -/
def registrations (s : State η) (key : CacheKey) : Nat :=
  s.calls.countP fun p => p.registration?.any fun r => r.1.same key

/-- No call is registered under the key. -/
def Free (s : State η) (key : CacheKey) : Prop :=
  ∀ i k lock, s.registered i = some (k, lock) → k.same key = false

end State

section
variable {s : State η} {key : CacheKey} {p : Pending}

lemma State.pending?_eq_some (h : s.pending? key = some p) :
    p ∈ s.pending ∧ p.key.same key = true := by
  have hkey := List.find?_some h
  exact ⟨List.mem_of_find?_eq_some h, hkey⟩

/-- There is one lock under a key. -/
lemma Locks.eq_of_same (h : Locks s) {q : Pending} (hp : p ∈ s.pending) (hq : q ∈ s.pending)
    (hsame : p.key.same q.key = true) : p = q := by
  by_contra hne
  have hapart := (h.distinct.forall hp hq hne).2
  rw [hsame] at hapart
  cases hapart

/-- A call finds the lock that it is registered for under its key. -/
lemma Locks.pending?_of_registered (h : Locks s) {i lock : Nat} {k : CacheKey}
    (hi : s.registered i = some (k, lock)) (hsame : k.same key = true) :
    ∃ p, s.pending? key = some p ∧ p.lock = lock := by
  obtain ⟨p, hp, hlock, hkey⟩ := h.shared hi
  have hfound : (s.pending? key).isSome :=
    List.find?_isSome.mpr ⟨p, hp, CacheKey.same_trans hkey hsame⟩
  obtain ⟨q, hq⟩ := Option.isSome_iff_exists.mp hfound
  obtain ⟨hmem, hqkey⟩ := State.pending?_eq_some hq
  have hpq : p.key.same q.key = true := by
    rw [CacheKey.same_comm] at hqkey
    exact CacheKey.same_trans (CacheKey.same_trans hkey hsame) hqkey
  obtain rfl := h.eq_of_same hp hmem hpq
  exact ⟨p, hq, hlock⟩

/-- The calls that are registered for a lock are those registered under its key. -/
lemma Locks.registered_iff (h : Locks s) (hp : s.pending? key = some p) {i lock : Nat}
    {k : CacheKey} (hi : s.registered i = some (k, lock)) : lock = p.lock ↔ k.same key = true := by
  obtain ⟨hmem, hkey⟩ := State.pending?_eq_some hp
  constructor
  · rintro rfl
    obtain ⟨q, hq, hlock, hqkey⟩ := h.shared hi
    have hpq : q = p := by
      by_contra hne
      exact (h.distinct.forall hq hmem hne).1 hlock
    subst hpq
    rw [CacheKey.same_comm] at hqkey
    exact CacheKey.same_trans hqkey hkey
  · intro hsame
    obtain ⟨q, hq, rfl⟩ := h.pending?_of_registered hi hsame
    rw [Option.some.inj (hp.symm.trans hq)]

/-- The calls registered under a key are counted with its lock. -/
lemma Locks.users_eq (h : Locks s) (hp : s.pending? key = some p) :
    p.users = s.registrations key := by
  obtain ⟨hmem, -⟩ := State.pending?_eq_some hp
  rw [h.counted p hmem, State.users, State.registrations]
  refine List.countP_congr fun q hq => ?_
  obtain ⟨i, hi⟩ := List.mem_iff_getElem?.mp hq
  cases hreg : q.registration? with
  | none => simp [Phase.uses, hreg]
  | some r =>
    obtain ⟨k, lock⟩ := r
    have hregistered : s.registered i = some (k, lock) := by
      rw [State.registered_of_call hi, hreg]
    simp [Phase.uses, hreg, h.registered_iff hp hregistered]

lemma Locks.exists_registered (h : Locks s) (hp : s.pending? key = some p) :
    ∃ i k lock, s.registered i = some (k, lock) ∧ k.same key = true := by
  obtain ⟨hmem, -⟩ := State.pending?_eq_some hp
  have hpos : 0 < s.users p.lock := h.counted p hmem ▸ h.used p hmem
  obtain ⟨i, k, hi⟩ := State.users_pos_iff.mp hpos
  exact ⟨i, k, p.lock, hi, (h.registered_iff hp hi).mp rfl⟩

/-- There is a lock under a key just when a call is registered under it. -/
lemma Locks.pending?_isSome_iff (h : Locks s) (key : CacheKey) :
    (s.pending? key).isSome = true ↔
      ∃ i k lock, s.registered i = some (k, lock) ∧ k.same key = true := by
  constructor
  · intro hsome
    obtain ⟨p, hp⟩ := Option.isSome_iff_exists.mp hsome
    exact h.exists_registered hp
  · rintro ⟨i, k, lock, hi, hsame⟩
    obtain ⟨p, hp, -⟩ := h.pending?_of_registered hi hsame
    rw [hp]
    rfl

/-- A lock that is made for the next registration is not held. -/
lemma Locks.lockCount_not_mem (h : Locks s) : s.lockCount ∉ s.held := by
  intro hheld
  obtain ⟨i, howned⟩ := h.held.mp hheld
  obtain ⟨k, hi⟩ := State.registered_of_owned howned
  obtain ⟨p, hp, hlock, -⟩ := h.shared hi
  have hlt := h.fresh p hp
  omega

end

/-- The calls registered in a state, against its locks and against the requests of the run. -/
structure Accounted (rs : List Request) (s : State η) : Prop where
  /-- A key has a lock just when a call is registered under it. -/
  present : ∀ key, (s.pending? key).isSome = true ↔
    ∃ i k lock, s.registered i = some (k, lock) ∧ k.same key = true
  /-- All calls that are registered under a key share its lock. -/
  shared : ∀ {i k lock key}, s.registered i = some (k, lock) → k.same key = true →
    ∃ p, s.pending? key = some p ∧ p.lock = lock
  /-- They are counted with the lock, which has none without them. -/
  counted : ∀ {key p}, s.pending? key = some p → p.users = s.registrations key ∧ 0 < p.users
  /-- There is no second lock under a key. -/
  single : ∀ p ∈ s.pending, s.pending? p.key = some p
  /-- A lock that is held is there. -/
  held : ∀ lock ∈ s.held, ∃ p ∈ s.pending, p.lock = lock
  /-- The registered calls are those that were to get or create a handle and have no result. -/
  registered : ∀ {i key}, (∃ lock, s.registered i = some (key, lock)) ↔
    rs[i]? = some (.getOrCreate key) ∧ s.result? i = none
  /-- When all of them have their results, no lock is there. -/
  idle : (∀ i key, rs[i]? = some (.getOrCreate key) → (s.result? i).isSome = true) →
    s.Idle

section
variable [Closable η] {s t : State η} {p q : Phase η} {a : Action η} {as : List (Action η)}
  {i lock : Nat} {key : CacheKey}

omit [Closable η] in
lemma Phase.isDone_iff : p.isDone = true ↔ ∃ r, p = .done r := by
  cases p <;> simp [Phase.isDone]

/-- A call stays registered as it is, until it ends. -/
lemma GoesOn.registration? (h : GoesOn s p q t) :
    q.registration? = p.registration? ∨ q.isDone = true := by
  cases h with
  | leave | report => exact .inr rfl
  | _ => exact .inl rfl

omit [Closable η] in
lemma Ends.registration? {outcome : Outcome η} (h : Ends p outcome q) :
    q.registration? = p.registration? := by
  cases h <;> rfl

/-- A step leaves a call registered as it is, or ends it; and a result stays. -/
lemma phase_step (hstep : s.perform a = some t) (hp : s.calls[i]? = some p) :
    ∃ q, t.calls[i]? = some q ∧ (q.registration? = p.registration? ∨ q.isDone = true) ∧
      (p.isDone = true → q = p) := by
  by_cases hown : a.call? = some i
  · obtain ⟨hlt, -⟩ := List.getElem?_eq_some_iff.mp hp
    cases a with
    | start r => cases hown
    | advance c =>
      cases hown
      obtain ⟨p', q, u, hp', hgoes, rfl⟩ := goesOn_of_advance hstep
      obtain rfl : p' = p := Option.some.inj (hp'.symm.trans hp)
      refine ⟨q, State.call_move (hgoes.calls ▸ hlt) q, hgoes.registration?, fun hdone => ?_⟩
      cases hgoes <;> cases hdone
    | finish c outcome =>
      cases hown
      obtain ⟨p', q, hp', hends, rfl⟩ := ends_of_finish hstep
      obtain rfl : p' = p := Option.some.inj (hp'.symm.trans hp)
      refine ⟨q, State.call_move hlt q, .inl hends.registration?, fun hdone => ?_⟩
      cases hends <;> cases hdone
  · exact ⟨p, call_of_other hstep hp hown, .inl rfl, fun _ => rfl⟩

/-- A call keeps its registration until it has a result. -/
lemma registered_step (hstep : s.perform a = some t) (hi : s.registered i = some (key, lock)) :
    t.registered i = some (key, lock) ∨ (t.result? i).isSome = true := by
  obtain ⟨p, hp, hreg⟩ := view_eq_some.mp hi
  obtain ⟨q, hq, hkept | hdone, -⟩ := phase_step hstep hp
  · exact .inl (by rw [State.registered_of_call hq, hkept, hreg])
  · obtain ⟨r, rfl⟩ := Phase.isDone_iff.mp hdone
    exact .inr (Option.isSome_iff_exists.mpr ⟨r, State.result?_eq_some.mpr hq⟩)

lemma result?_step {r : Result η} (hstep : s.perform a = some t) (hi : s.result? i = some r) :
    t.result? i = some r := by
  have hp := State.result?_eq_some.mp hi
  obtain ⟨q, hq, -, hdone⟩ := phase_step hstep hp
  rw [State.result?_eq_some, hq, hdone rfl]

/-- However a run goes on, a call keeps its registration until it has a result. -/
lemma registered_run (has : s.performAll as = some t) (hi : s.registered i = some (key, lock)) :
    t.registered i = some (key, lock) ∨ (t.result? i).isSome = true := by
  induction as using List.reverseRecOn generalizing t with
  | nil =>
    cases has
    exact .inl hi
  | append_singleton as a ih =>
    obtain ⟨mid, has, hstep⟩ := State.performAll_snoc.mp has
    rcases ih has with hmid | hresult
    · exact registered_step hstep hmid
    · obtain ⟨r, hr⟩ := Option.isSome_iff_exists.mp hresult
      exact .inr (by rw [result?_step hstep hr, Option.isSome_some])

/-- A call is registered by the step that it begins with. -/
lemma registered_before (hstep : s.perform a = some t) (hi : t.registered i = some (key, lock)) :
    s.registered i = some (key, lock) ∨ a.request? = some (.getOrCreate key) := by
  cases change_of_perform hstep with
  | join r p free calls _ _ =>
    rw [State.registered_append calls, free] at hi
    split_ifs at hi
    exact .inl hi
  | register key' _ calls _ _ _ _ =>
    rw [State.registered_append calls] at hi
    split_ifs at hi
    · cases hi
      exact .inr rfl
    · exact .inl hi
  | move a call _ p q before calls registered _ _ _ _ =>
    rw [State.registered_set_of_eq before calls registered] at hi
    exact .inl hi
  | acquire call _ _ before _ calls _ _ _ _ | store call _ _ _ before calls _ _
  | unlock call _ _ _ before calls _ _ _ _ =>
    rw [State.registered_set_of_eq before calls rfl] at hi
    exact .inl hi
  | leave call _ _ _ before calls _ _ _ _ =>
    rw [State.registered_set before calls] at hi
    split_ifs at hi
    · cases hi
    · exact .inl hi

/-- While no call asks for a key, no other calls are registered under it than before. -/
lemma others_run {call : Nat} (has : s.performAll as = some t)
    (hothers : ∀ i k lock, i ≠ call → s.registered i = some (k, lock) → k.same key = false)
    (hrequests : ∀ r ∈ requests as, r.gets key = false) :
    ∀ i k lock, i ≠ call → t.registered i = some (k, lock) → k.same key = false := by
  induction as using List.reverseRecOn generalizing t with
  | nil =>
    cases has
    exact hothers
  | append_singleton as a ih =>
    obtain ⟨mid, has, hstep⟩ := State.performAll_snoc.mp has
    rw [requests_snoc] at hrequests
    have hmid := ih has fun r hr => hrequests r (List.mem_append_left _ hr)
    intro i k lock hne hi
    rcases registered_before hstep hi with hbefore | hrequest
    · exact hmid i k lock hne hbefore
    · have hlast : Request.getOrCreate k ∈ a.request?.toList := by simp [hrequest]
      exact hrequests _ (List.mem_append_right _ hlast)

omit [Closable η] in
/-- A call that begins to get or create a handle registers, or has a result at once. -/
lemma registered_start (s : State η) (key : CacheKey) :
    (∃ lock, (s.start (.getOrCreate key)).registered s.calls.length = some (key, lock)) ∨
      ((s.start (.getOrCreate key)).result? s.calls.length).isSome = true := by
  rw [State.start]
  split_ifs
  · rw [State.startCreation]
    split
    · exact .inr (by simp [State.result?, State.join, State.say, State.countHit])
    · have hcalls := (register_frame s key).1
      refine .inl ⟨(s.register key).2, ?_⟩
      rw [State.registered_append (s := s) (p := .waiting key (s.register key).2)
        (by simp [State.join, hcalls]), if_pos rfl]
      rfl
  · exact .inr (by simp [State.result?, State.reject, State.join])

omit [Closable η] in
/-- A request of a run was made before the last step, or by it. -/
lemma requests_snoc_eq_some {r : Request} : (requests (as ++ [a]))[i]? = some r ↔
    (requests as)[i]? = some r ∨ i = (requests as).length ∧ a.request? = some r := by
  rw [requests_snoc, List.getElem?_append]
  split_ifs with hlt
  · have hne : i ≠ (requests as).length := by omega
    simp [hne]
  · have hnone : (requests as)[i]? = none := List.getElem?_eq_none (by omega)
    rw [hnone]
    cases a.request? with
    | none => simp
    | some r' =>
      by_cases hi : i = (requests as).length
      · simp [hi]
      · have hpos : i - (requests as).length ≠ 0 := by omega
        simp [hi, hpos]

/-- A call that is to get or create a handle is registered under its key, or has a result. -/
lemma registered_or_result (has : State.empty.performAll as = some s)
    (hi : (requests as)[i]? = some (.getOrCreate key)) :
    (∃ lock, s.registered i = some (key, lock)) ∨ (s.result? i).isSome = true := by
  induction as using List.reverseRecOn generalizing s with
  | nil => cases hi
  | append_singleton as a ih =>
    obtain ⟨mid, hpast, hstep⟩ := State.performAll_snoc.mp has
    rcases requests_snoc_eq_some.mp hi with hi | ⟨hlast, hrequest⟩
    · rcases ih hpast hi with ⟨lock, hmid⟩ | hresult
      · rcases registered_step hstep hmid with hkept | hresult
        · exact .inl ⟨lock, hkept⟩
        · exact .inr hresult
      · obtain ⟨r, hr⟩ := Option.isSome_iff_exists.mp hresult
        exact .inr (by rw [result?_step hstep hr, Option.isSome_some])
    · cases a with
      | start r =>
        cases hrequest
        cases hstep
        rw [hlast, ← (asked_of_run hpast).length]
        exact registered_start mid key
      | advance | finish => cases hrequest

/-- After a run of any calls, the registrations, the locks and the requests agree. -/
theorem accounted_of_run (has : State.empty.performAll as = some s) :
    Accounted (requests as) s := by
  have hs := Reachable.empty.performAll has
  have hasked := asked_of_run has
  refine ⟨hs.locks.pending?_isSome_iff, hs.locks.pending?_of_registered, fun hp => ?_,
    fun p hp => ?_, fun lock hheld => ?_, fun {i key} => ?_, fun hresults => ?_⟩
  · exact ⟨hs.locks.users_eq hp, hs.locks.used _ (State.pending?_eq_some hp).1⟩
  · have hsome : (s.pending? p.key).isSome = true :=
      List.find?_isSome.mpr ⟨p, hp, CacheKey.same_self p.key⟩
    obtain ⟨q, hq⟩ := Option.isSome_iff_exists.mp hsome
    obtain ⟨hmem, hsame⟩ := State.pending?_eq_some hq
    rw [hq, hs.locks.eq_of_same hmem hp hsame]
  · obtain ⟨i, howned⟩ := hs.locks.held.mp hheld
    obtain ⟨k, hi⟩ := State.registered_of_owned howned
    obtain ⟨p, hp, hlock, -⟩ := hs.locks.shared hi
    exact ⟨p, hp, hlock⟩
  · constructor
    · rintro ⟨lock, hi⟩
      refine ⟨hasked.registered hi, ?_⟩
      obtain ⟨p, hp, hreg⟩ := view_eq_some.mp hi
      cases p with
      | done => cases hreg
      | _ => simp [State.result?, hp]
    · rintro ⟨hi, hnone⟩
      rcases registered_or_result has hi with hreg | hresult
      · exact hreg
      · rw [hnone] at hresult
        cases hresult
  · refine hs.locks.idle fun i => ?_
    by_contra hsome
    obtain ⟨⟨key, lock⟩, hi⟩ := Option.ne_none_iff_exists'.mp hsome
    have hresult := hresults i key (hasked.registered hi)
    obtain ⟨r, hr⟩ := Option.isSome_iff_exists.mp hresult
    rw [State.registered_of_call (State.result?_eq_some.mp hr)] at hi
    cases hi

end

end TaggedSuite.Session.Cache
