import Mathlib.Tactic.Common
import TaggedSuite.Session.Cache.Step

/-!
# What a step changes

A step of the cache belongs to one call. How a call goes on and how a creation ends is listed once.
For what concerns the locks and the entries, each step is one of seven changes. The invariants of
the cache are proved from these lists, so that the cases of a step are told apart only once.
-/
namespace TaggedSuite.Session.Cache

variable {η : Type}

namespace Phase

/-- The key and the lock that a call is registered for. -/
def registration? : Phase η → Option (CacheKey × Nat)
  | waiting key lock | holding key lock | missed key lock | creating key lock => some (key, lock)
  | created key lock _ | failed key lock _ => some (key, lock)
  | unlocking key lock _ | leaving key lock _ => some (key, lock)
  | releasing .. | done _ => none

/-- The lock that a call holds. -/
def ownedLock? : Phase η → Option Nat
  | holding _ lock | missed _ lock | creating _ lock => some lock
  | created _ lock _ | failed _ lock _ | unlocking _ lock _ => some lock
  | waiting .. | leaving .. | releasing .. | done _ => none

/-- The key that a call has found no entry under, until it stores one or gives up. -/
def missing? : Phase η → Option CacheKey
  | missed key _ | creating key _ | created key _ _ | failed key _ _ => some key
  | _ => none

/-- A call that holds a lock is registered for it. -/
lemma registration?_of_ownedLock? {p : Phase η} {lock : Nat} (h : p.ownedLock? = some lock) :
    ∃ key, p.registration? = some (key, lock) := by
  cases p <;> cases h <;> exact ⟨_, rfl⟩

/-- A call that misses an entry holds the lock for its key. -/
lemma owned_of_missing? {p : Phase η} {key : CacheKey} (h : p.missing? = some key) :
    ∃ lock, p.registration? = some (key, lock) ∧ p.ownedLock? = some lock := by
  cases p <;> cases h <;> exact ⟨_, rfl, rfl⟩

end Phase

/-- What can be seen of a call from its phase. -/
def view {α : Type} (f : Phase η → Option α) (calls : List (Phase η)) (i : Nat) : Option α :=
  calls[i]?.bind f

section
variable {α : Type} {f : Phase η → Option α} {calls : List (Phase η)} {p q : Phase η} {c : Nat}

lemma view_eq_some {a : α} {i : Nat} :
    view f calls i = some a ↔ ∃ p, calls[i]? = some p ∧ f p = some a := by
  simp [view, Option.bind_eq_some_iff]

lemma view_of_call (hc : calls[c]? = some p) : view f calls c = f p := by simp [view, hc]

lemma view_append (i : Nat) :
    view f (calls ++ [p]) i = if i = calls.length then f p else view f calls i := by
  unfold view
  rcases Nat.lt_trichotomy i calls.length with h | rfl | h
  · rw [List.getElem?_append_left h, if_neg (by omega)]
  · simp
  · rw [if_neg (by omega), List.getElem?_eq_none (by simp; omega),
      List.getElem?_eq_none (by omega)]

lemma view_set (hc : calls[c]? = some p) (i : Nat) :
    view f (calls.set c q) i = if i = c then f q else view f calls i := by
  obtain ⟨hlt, -⟩ := List.getElem?_eq_some_iff.mp hc
  unfold view
  by_cases h : i = c
  · subst h
    simp [hlt]
  · rw [List.getElem?_set_ne (Ne.symm h), if_neg h]

lemma view_set_of_eq (hc : calls[c]? = some p) (h : f q = f p) :
    view f (calls.set c q) = view f calls := by
  funext i
  rw [view_set hc, h, ← view_of_call (f := f) hc]
  split_ifs with hi <;> simp [hi]

lemma view_append_none (h : f p = none) : view f (calls ++ [p]) = view f calls := by
  funext i
  rw [view_append]
  split_ifs with hi
  · rw [h, hi]
    simp [view]
  · rfl

end

/-- How a call goes on from a phase: to which phase, and what it does to the rest of the state. -/
inductive GoesOn [Closable η] (s : State η) : Phase η → Phase η → State η → Prop where
  | acquire {key : CacheKey} {lock : Nat} (free : lock ∉ s.held) :
      GoesOn s (.waiting key lock) (.holding key lock) { s with held := lock :: s.held }
  | hit {key : CacheKey} {lock : Nat} {e : Entry η} (cached : s.entry? key = some e) :
      GoesOn s (.holding key lock) (.unlocking key lock (.handle e.handle)) s.countHit
  | miss {key : CacheKey} {lock : Nat} (absent : s.entry? key = none) :
      GoesOn s (.holding key lock) (.missed key lock) s.countMiss
  | create {key : CacheKey} {lock : Nat} :
      GoesOn s (.missed key lock) (.creating key lock)
        (s.say (.info s!"Creating session for {key.text}"))
  | store {key : CacheKey} {lock : Nat} {h : η} :
      GoesOn s (.created key lock h) (.unlocking key lock (.handle h))
        ((s.store ⟨key, h⟩).say
          (.info s!"Session created for {key.text} in {State.elapsedMark}s"))
  | recordFailure {key : CacheKey} {lock : Nat} {f : Fault} :
      GoesOn s (.failed key lock f) (.unlocking key lock (.raised (f.raised key)))
        (s.countFailure.say
          (.warning s!"Session creation failed for {key.text}: {f.message}"))
  | unlock {key : CacheKey} {lock : Nat} {r : Result η} :
      GoesOn s (.unlocking key lock r) (.leaving key lock r)
        { s with held := s.held.erase lock }
  | leave {key : CacheKey} {lock : Nat} {r : Result η} :
      GoesOn s (.leaving key lock r) (.done r) (s.deregister lock)
  | release {e : Entry η} {rest : List (Entry η)} {why : Eviction} :
      GoesOn s (.releasing (e :: rest) why) (.releasing rest why) (s.release e)
  | report {why : Eviction} :
      GoesOn s (.releasing [] why) (.done (State.evictionResult why))
        { s with log := s.log ++ s.evictionLog why }

/-- How a running creation ends for its call. -/
inductive Ends : Phase η → Outcome η → Phase η → Prop where
  | returned {key : CacheKey} {lock : Nat} {h : η} :
      Ends (.creating key lock) (.ok h) (.created key lock h)
  | failed {key : CacheKey} {lock : Nat} {f : Fault} (failure : f.isFailure = true) :
      Ends (.creating key lock) (.error f) (.failed key lock f)
  | interrupted {key : CacheKey} {lock : Nat} {f : Fault} (interruption : f.isFailure = false) :
      Ends (.creating key lock) (.error f) (.unlocking key lock (.raised (f.raised key)))

lemma goesOn_of_advance [Closable η] {s t : State η} {call : Nat} (h : s.advance call = some t) :
    ∃ p q u, s.calls[call]? = some p ∧ GoesOn s p q u ∧ t = u.move call q := by
  unfold State.advance at h
  obtain ⟨p, hp, h⟩ := Option.bind_eq_some_iff.mp h
  cases p with
  | waiting key lock =>
    dsimp only at h
    split_ifs at h with hheld
    exact ⟨_, _, _, hp, .acquire hheld, (Option.some.inj h).symm⟩
  | holding key lock =>
    dsimp only at h
    split at h
    · next cached => exact ⟨_, _, _, hp, .hit cached, (Option.some.inj h).symm⟩
    · next absent => exact ⟨_, _, _, hp, .miss absent, (Option.some.inj h).symm⟩
  | missed key lock => exact ⟨_, _, _, hp, .create, (Option.some.inj h).symm⟩
  | creating key lock => cases h
  | created key lock h' => exact ⟨_, _, _, hp, .store, (Option.some.inj h).symm⟩
  | failed key lock f => exact ⟨_, _, _, hp, .recordFailure, (Option.some.inj h).symm⟩
  | unlocking key lock r => exact ⟨_, _, _, hp, .unlock, (Option.some.inj h).symm⟩
  | leaving key lock r => exact ⟨_, _, _, hp, .leave, (Option.some.inj h).symm⟩
  | releasing rest why =>
    cases rest with
    | nil => exact ⟨_, _, _, hp, .report, (Option.some.inj h).symm⟩
    | cons e rest => exact ⟨_, _, _, hp, .release, (Option.some.inj h).symm⟩
  | done r => cases h

lemma ends_of_finish {s t : State η} {call : Nat} {outcome : Outcome η}
    (h : s.finish call outcome = some t) :
    ∃ p q, s.calls[call]? = some p ∧ Ends p outcome q ∧ t = s.move call q := by
  unfold State.finish at h
  obtain ⟨p, hp, h⟩ := Option.bind_eq_some_iff.mp h
  cases p with
  | creating key lock =>
    cases outcome with
    | ok h' => exact ⟨_, _, hp, .returned, (Option.some.inj h).symm⟩
    | error f =>
      dsimp only at h
      split_ifs at h with hf
      · exact ⟨_, _, hp, .failed hf, (Option.some.inj h).symm⟩
      · exact ⟨_, _, hp, .interrupted (by simpa using hf), (Option.some.inj h).symm⟩
  | _ => cases h

/-- The locks, and the registrations for them, are the same in both states. -/
structure SameLocks (s t : State η) : Prop where
  pending : t.pending = s.pending
  held : t.held = s.held
  lockCount : t.lockCount = s.lockCount

/-- The call that goes on with a step. -/
def Action.call? : Action η → Option Nat
  | .start _ => none
  | .advance call | .finish call _ => some call

/-- What a step makes of a state. -/
inductive Change (s t : State η) : Action η → Prop where
  /-- A call begins that needs no lock. It may take entries out. -/
  | join (r : Request) (p : Phase η) (free : p.registration? = none)
      (calls : t.calls = s.calls ++ [p]) (entries : t.entries.Sublist s.entries)
      (locks : SameLocks s t) : Change s t (.start r)
  /-- A call begins that registers for the lock of a key. -/
  | register (key : CacheKey) (hashable : key.isHashable = true)
      (calls : t.calls = s.calls ++ [.waiting key (s.register key).2])
      (entries : t.entries = s.entries) (pending : t.pending = (s.register key).1.pending)
      (held : t.held = s.held) (lockCount : t.lockCount = (s.register key).1.lockCount) :
      Change s t (.start (.getOrCreate key))
  /-- A call goes on with the same registration and the same lock. -/
  | move (a : Action η) (call : Nat) (on : a.call? = some call) (p q : Phase η)
      (before : s.calls[call]? = some p) (calls : t.calls = s.calls.set call q)
      (registered : q.registration? = p.registration?) (owned : q.ownedLock? = p.ownedLock?)
      (missing : ∀ key, q.missing? = some key → p.missing? = some key ∨ s.entry? key = none)
      (entries : t.entries = s.entries) (locks : SameLocks s t) : Change s t a
  /-- A call takes its lock. -/
  | acquire (call : Nat) (key : CacheKey) (lock : Nat)
      (before : s.calls[call]? = some (.waiting key lock)) (free : lock ∉ s.held)
      (calls : t.calls = s.calls.set call (.holding key lock)) (entries : t.entries = s.entries)
      (pending : t.pending = s.pending) (held : t.held = lock :: s.held)
      (lockCount : t.lockCount = s.lockCount) : Change s t (.advance call)
  /-- A call stores an entry under its key. -/
  | store (call : Nat) (key : CacheKey) (lock : Nat) (h : η)
      (before : s.calls[call]? = some (.created key lock h))
      (calls : t.calls = s.calls.set call (.unlocking key lock (.handle h)))
      (entries : t.entries = (s.store ⟨key, h⟩).entries) (locks : SameLocks s t) :
      Change s t (.advance call)
  /-- A call gives its lock back. -/
  | unlock (call : Nat) (key : CacheKey) (lock : Nat) (r : Result η)
      (before : s.calls[call]? = some (.unlocking key lock r))
      (calls : t.calls = s.calls.set call (.leaving key lock r)) (entries : t.entries = s.entries)
      (pending : t.pending = s.pending) (held : t.held = s.held.erase lock)
      (lockCount : t.lockCount = s.lockCount) : Change s t (.advance call)
  /-- A call ends its registration. -/
  | leave (call : Nat) (key : CacheKey) (lock : Nat) (r : Result η)
      (before : s.calls[call]? = some (.leaving key lock r))
      (calls : t.calls = s.calls.set call (.done r)) (entries : t.entries = s.entries)
      (pending : t.pending = (s.deregister lock).pending) (held : t.held = s.held)
      (lockCount : t.lockCount = s.lockCount) : Change s t (.advance call)

lemma register_frame (s : State η) (key : CacheKey) :
    (s.register key).1.calls = s.calls ∧ (s.register key).1.entries = s.entries ∧
      (s.register key).1.held = s.held := by
  unfold State.register
  split <;> exact ⟨rfl, rfl, rfl⟩

lemma change_start (s : State η) (r : Request) : Change s (s.start r) (.start r) := by
  have hreject (r : Request) (key : CacheKey) : Change s (s.reject key) (.start r) :=
    .join r _ rfl rfl (.refl _) ⟨rfl, rfl, rfl⟩
  cases r with
  | getOrCreate key =>
    rw [State.start]
    split_ifs with hkey
    · unfold State.startCreation
      split
      · exact .join _ _ rfl rfl (.refl _) ⟨rfl, rfl, rfl⟩
      · obtain ⟨hcalls, hentries, hheld⟩ := register_frame s key
        exact .register key hkey (congrArg (· ++ _) hcalls) hentries rfl hheld rfl
    · exact hreject _ key
  | get key =>
    rw [State.start]
    split_ifs
    · exact .join _ _ rfl rfl (.refl _) ⟨rfl, rfl, rfl⟩
    · exact hreject _ key
  | contains key =>
    rw [State.start]
    split_ifs
    · exact .join _ _ rfl rfl (.refl _) ⟨rfl, rfl, rfl⟩
    · exact hreject _ key
  | invalidate key =>
    rw [State.start]
    split_ifs
    · unfold State.startInvalidation
      split
      · exact .join _ _ rfl rfl List.filter_sublist ⟨rfl, rfl, rfl⟩
      · exact .join _ _ rfl rfl (.refl _) ⟨rfl, rfl, rfl⟩
    · exact hreject _ key
  | invalidateActor actor =>
    rw [State.start, State.startActorInvalidation]
    split
    · exact .join _ _ rfl rfl (.refl _) ⟨rfl, rfl, rfl⟩
    · exact .join _ _ rfl rfl List.filter_sublist ⟨rfl, rfl, rfl⟩
  | clear => exact .join _ _ rfl rfl (List.nil_sublist _) ⟨rfl, rfl, rfl⟩

lemma release_frame [Closable η] (s : State η) (e : Entry η) :
    (s.release e).calls = s.calls ∧ (s.release e).entries = s.entries ∧
      SameLocks s (s.release e) := by
  unfold State.release
  cases Closable.closing e.handle <;> exact ⟨rfl, rfl, rfl, rfl, rfl⟩

lemma change_advance [Closable η] {s t : State η} {call : Nat} (h : s.advance call = some t) :
    Change s t (.advance call) := by
  obtain ⟨p, q, u, hp, hgoes, rfl⟩ := goesOn_of_advance h
  cases hgoes with
  | acquire free => exact .acquire call _ _ hp free rfl rfl rfl rfl rfl
  | hit cached => exact .move _ call rfl _ _ hp rfl rfl rfl nofun rfl ⟨rfl, rfl, rfl⟩
  | miss absent =>
    refine .move _ call rfl _ _ hp rfl rfl rfl ?_ rfl ⟨rfl, rfl, rfl⟩
    intro key hkey
    cases hkey
    exact .inr absent
  | create =>
    exact .move _ call rfl _ _ hp rfl rfl rfl (fun _ hkey => .inl hkey) rfl ⟨rfl, rfl, rfl⟩
  | store => exact .store call _ _ _ hp rfl rfl ⟨rfl, rfl, rfl⟩
  | recordFailure => exact .move _ call rfl _ _ hp rfl rfl rfl nofun rfl ⟨rfl, rfl, rfl⟩
  | unlock => exact .unlock call _ _ _ hp rfl rfl rfl rfl rfl
  | leave => exact .leave call _ _ _ hp rfl rfl rfl rfl rfl
  | @release e rest why =>
    obtain ⟨hcalls, hentries, hlocks⟩ := release_frame s e
    refine .move _ call rfl _ (.releasing rest why) hp ?_ rfl rfl nofun hentries
      ⟨hlocks.pending, hlocks.held, hlocks.lockCount⟩
    rw [← hcalls]
    rfl
  | report => exact .move _ call rfl _ _ hp rfl rfl rfl nofun rfl ⟨rfl, rfl, rfl⟩

lemma change_finish {s t : State η} {call : Nat} {outcome : Outcome η}
    (h : s.finish call outcome = some t) : Change s t (.finish call outcome) := by
  obtain ⟨p, q, hp, hends, rfl⟩ := ends_of_finish h
  cases hends with
  | returned =>
    exact .move _ call rfl _ _ hp rfl rfl rfl (fun _ hkey => .inl hkey) rfl ⟨rfl, rfl, rfl⟩
  | failed _ =>
    exact .move _ call rfl _ _ hp rfl rfl rfl (fun _ hkey => .inl hkey) rfl ⟨rfl, rfl, rfl⟩
  | interrupted _ => exact .move _ call rfl _ _ hp rfl rfl rfl nofun rfl ⟨rfl, rfl, rfl⟩

/-- Every step is one of the changes. -/
theorem change_of_perform [Closable η] {s t : State η} {a : Action η}
    (h : s.perform a = some t) : Change s t a := by
  cases a with
  | start r =>
    cases h
    exact change_start s r
  | advance call => exact change_advance h
  | finish call outcome => exact change_finish h

end TaggedSuite.Session.Cache
