import Mathlib.Data.List.Pairwise
import TaggedSuite.Proofs.Session.Cache.Change

/-!
# The locks of creations

The calls that are registered under one key share one lock, and the lock is there until the last of
them has left. So a lock that a call holds is never replaced by a new one for the same key, and at
most one of the calls on a key is past taking its lock.
-/
namespace TaggedSuite.Session.Cache

variable {η : Type}

/-- Whether a call is registered for the lock. -/
def Phase.uses (lock : Nat) (p : Phase η) : Bool := p.registration?.any fun r => r.2 == lock

namespace State

/-- The key and the lock that a call is registered for. -/
def registered (s : State η) (call : Nat) : Option (CacheKey × Nat) :=
  view Phase.registration? s.calls call

/-- The lock that a call holds. -/
def owned (s : State η) (call : Nat) : Option Nat := view Phase.ownedLock? s.calls call

/-- The number of calls registered for a lock. -/
def users (s : State η) (lock : Nat) : Nat := s.calls.countP (Phase.uses lock)

end State

/-- Two locks for two keys. -/
def Apart (p q : Pending) : Prop := p.lock ≠ q.lock ∧ p.key.same q.key = false

instance : Std.Symm Apart where
  symm p q h := ⟨h.1.symm, by rw [CacheKey.same_comm]; exact h.2⟩

/-- A lock with a registration more, if it is the lock in question. -/
def Pending.joined (lock : Nat) (q : Pending) : Pending :=
  if q.lock = lock then { q with users := q.users + 1 } else q

/-- A lock with a registration less, if it is the lock in question and any is left. -/
def Pending.left? (lock : Nat) (q : Pending) : Option Pending :=
  if q.lock ≠ lock then some q
  else if q.users ≤ 1 then none
  else some { q with users := q.users - 1 }

section
variable {lock : Nat} {p q : Pending}

@[simp] lemma Pending.joined_lock : (q.joined lock).lock = q.lock := by
  unfold joined
  split <;> rfl

@[simp] lemma Pending.joined_key : (q.joined lock).key = q.key := by
  unfold joined
  split <;> rfl

lemma Pending.joined_users :
    (q.joined lock).users = q.users + if q.lock = lock then 1 else 0 := by
  unfold joined
  split <;> rfl

lemma Pending.left?_eq_some :
    q.left? lock = some p ↔ q.lock ≠ lock ∧ p = q ∨
      q.lock = lock ∧ 1 < q.users ∧ p = { q with users := q.users - 1 } := by
  unfold left?
  split_ifs with hlock husers
  · simp [hlock, eq_comm]
  · simp only [false_iff, not_or]
    exact ⟨fun h => hlock h.1, fun h => by omega⟩
  · rw [not_not] at hlock
    have hlt : 1 < q.users := by omega
    simp [hlock, hlt, eq_comm]

lemma Pending.left?_spec (h : q.left? lock = some p) : p.lock = q.lock ∧ p.key = q.key := by
  rcases left?_eq_some.mp h with ⟨-, rfl⟩ | ⟨-, -, rfl⟩ <;> exact ⟨rfl, rfl⟩

end

/-- What holds of the locks in every state that calls can lead to. -/
structure Locks (s : State η) : Prop where
  /-- No two keys share a lock, and no key has two locks. -/
  distinct : s.pending.Pairwise Apart
  /-- A new lock is none of those in use. -/
  fresh : ∀ p ∈ s.pending, p.lock < s.lockCount
  /-- A call is registered for the lock under its key. -/
  shared : ∀ {i key lock}, s.registered i = some (key, lock) →
    ∃ p ∈ s.pending, p.lock = lock ∧ p.key.same key = true
  /-- The registrations for a lock are counted. -/
  counted : ∀ p ∈ s.pending, p.users = s.users p.lock
  /-- A lock is dropped with its last registration. -/
  used : ∀ p ∈ s.pending, 0 < p.users
  /-- Two calls do not hold the same lock. -/
  exclusive : ∀ {i j lock}, s.owned i = some lock → s.owned j = some lock → i = j
  /-- A lock is held just when a call holds it. -/
  held : ∀ {lock}, lock ∈ s.held ↔ ∃ i, s.owned i = some lock
  /-- A lock is held once. -/
  once : s.held.Nodup

section
variable {α : Type}

lemma countP_set_add (f : α → Bool) {l : List α} {c : Nat} {p : α} (hc : l[c]? = some p) (q : α) :
    (l.set c q).countP f + (if f p then 1 else 0) = l.countP f + (if f q then 1 else 0) := by
  induction l generalizing c with
  | nil => cases hc
  | cons a l ih =>
    cases c with
    | zero =>
      cases hc
      simp only [List.set_cons_zero, List.countP_cons]
      omega
    | succ c =>
      have htail := ih (c := c) hc
      simp only [List.set_cons_succ, List.countP_cons]
      omega

lemma countP_set_of_eq (f : α → Bool) {l : List α} {c : Nat} {p q : α} (hc : l[c]? = some p)
    (h : f q = f p) : (l.set c q).countP f = l.countP f := by
  have hadd := countP_set_add f hc q
  rw [h] at hadd
  omega

end

section
variable {s t : State η} {i j lock : Nat} {key key' : CacheKey}

lemma Phase.uses_iff {p : Phase η} :
    p.uses lock = true ↔ ∃ key, p.registration? = some (key, lock) := by
  rw [Phase.uses, Option.any_eq_true]
  constructor
  · rintro ⟨⟨key, l⟩, hp, hl⟩
    exact ⟨key, by rw [hp, ← eq_of_beq hl]⟩
  · rintro ⟨key, hp⟩
    exact ⟨(key, lock), hp, beq_self_eq_true _⟩

lemma Phase.uses_of_registration? {p : Phase η} (h : p.registration? = some (key, lock)) (l : Nat) :
    p.uses l = decide (l = lock) := by
  rw [Phase.uses, h, Option.any_some, Bool.beq_comm]
  rfl

lemma State.registered_of_call {p : Phase η} (h : s.calls[i]? = some p) :
    s.registered i = p.registration? := view_of_call h

lemma State.owned_of_call {p : Phase η} (h : s.calls[i]? = some p) :
    s.owned i = p.ownedLock? := view_of_call h

/-- A call that holds a lock is registered for it. -/
lemma State.registered_of_owned (h : s.owned i = some lock) :
    ∃ key, s.registered i = some (key, lock) := by
  obtain ⟨p, hp, howned⟩ := view_eq_some.mp h
  obtain ⟨key, hkey⟩ := Phase.registration?_of_ownedLock? howned
  exact ⟨key, by rw [registered_of_call hp, hkey]⟩

lemma State.users_pos_iff : 0 < s.users lock ↔ ∃ i key, s.registered i = some (key, lock) := by
  rw [users, List.countP_pos_iff]
  constructor
  · rintro ⟨p, hp, huses⟩
    obtain ⟨i, hi⟩ := List.mem_iff_getElem?.mp hp
    obtain ⟨key, hkey⟩ := Phase.uses_iff.mp huses
    exact ⟨i, key, by rw [registered_of_call hi, hkey]⟩
  · rintro ⟨i, key, hi⟩
    obtain ⟨p, hp, hkey⟩ := view_eq_some.mp hi
    exact ⟨p, List.mem_of_getElem? hp, Phase.uses_iff.mpr ⟨key, hkey⟩⟩

section
variable {c : Nat} {p q : Phase η}

lemma State.registered_set (hc : s.calls[c]? = some p) (calls : t.calls = s.calls.set c q)
    (i : Nat) : t.registered i = if i = c then q.registration? else s.registered i := by
  rw [registered, calls, view_set hc]
  rfl

lemma State.owned_set (hc : s.calls[c]? = some p) (calls : t.calls = s.calls.set c q)
    (i : Nat) : t.owned i = if i = c then q.ownedLock? else s.owned i := by
  rw [owned, calls, view_set hc]
  rfl

lemma State.registered_set_of_eq (hc : s.calls[c]? = some p) (calls : t.calls = s.calls.set c q)
    (h : q.registration? = p.registration?) : t.registered = s.registered := by
  funext i
  rw [registered, calls, view_set_of_eq hc h]
  rfl

lemma State.owned_set_of_eq (hc : s.calls[c]? = some p) (calls : t.calls = s.calls.set c q)
    (h : q.ownedLock? = p.ownedLock?) : t.owned = s.owned := by
  funext i
  rw [owned, calls, view_set_of_eq hc h]
  rfl

lemma State.users_set_of_eq (hc : s.calls[c]? = some p) (calls : t.calls = s.calls.set c q)
    (h : q.registration? = p.registration?) : t.users = s.users := by
  funext lock
  rw [users, calls, countP_set_of_eq _ hc (by rw [Phase.uses, h]; rfl)]
  rfl

lemma State.registered_append (calls : t.calls = s.calls ++ [p]) (i : Nat) :
    t.registered i = if i = s.calls.length then p.registration? else s.registered i := by
  rw [registered, calls, view_append]
  rfl

lemma State.owned_append (calls : t.calls = s.calls ++ [p]) (h : p.ownedLock? = none) :
    t.owned = s.owned := by
  funext i
  rw [owned, calls, view_append_none h]
  rfl

lemma State.users_append (calls : t.calls = s.calls ++ [p]) (lock : Nat) :
    t.users lock = s.users lock + if p.uses lock then 1 else 0 := by
  rw [users, calls, List.countP_append, List.countP_singleton]
  rfl

end

/-- Calls that are registered under the same key are registered for the same lock. -/
lemma Locks.lock_eq (h : Locks s) {lock' : Nat} (hi : s.registered i = some (key, lock))
    (hj : s.registered j = some (key', lock')) (hsame : key.same key' = true) : lock = lock' := by
  obtain ⟨p, hp, rfl, hpkey⟩ := h.shared hi
  obtain ⟨q, hq, rfl, hqkey⟩ := h.shared hj
  rw [CacheKey.same_comm] at hqkey
  have hpq : p.key.same q.key = true :=
    CacheKey.same_trans (CacheKey.same_trans hpkey hsame) hqkey
  by_contra hne
  have hapart := (h.distinct.forall hp hq fun heq => hne (by rw [heq])).2
  rw [hpq] at hapart
  cases hapart

lemma Locks.empty : Locks (State.empty : State η) where
  distinct := .nil
  fresh := nofun
  shared := nofun
  counted := nofun
  used := nofun
  exclusive := nofun
  held := by simp [State.empty, State.owned, view]
  once := .nil

/-- Steps that leave the registrations and the locks alone. -/
lemma Locks.frame (h : Locks s) (locks : SameLocks s t) (registered : t.registered = s.registered)
    (owned : t.owned = s.owned) (users : t.users = s.users) : Locks t where
  distinct := by rw [locks.pending]; exact h.distinct
  fresh := by rw [locks.pending, locks.lockCount]; exact h.fresh
  shared := by rw [locks.pending, registered]; exact h.shared
  counted := by rw [locks.pending, users]; exact h.counted
  used := by rw [locks.pending]; exact h.used
  exclusive := by rw [owned]; exact h.exclusive
  held := by rw [locks.held, owned]; exact h.held
  once := by rw [locks.held]; exact h.once

/-- A call registers under a key that calls are registered under. -/
lemma Locks.register_shared (h : Locks s) {p : Pending} (hp : p ∈ s.pending)
    (hkey : p.key.same key = true) (calls : t.calls = s.calls ++ [.waiting key p.lock])
    (pending : t.pending = s.pending.map (Pending.joined p.lock)) (held : t.held = s.held)
    (lockCount : t.lockCount = s.lockCount) : Locks t := by
  have hregistered (i : Nat) :
      t.registered i = if i = s.calls.length then some (key, p.lock) else s.registered i :=
    State.registered_append calls i
  have howned := State.owned_append calls rfl
  have husers (l : Nat) : t.users l = s.users l + if l = p.lock then 1 else 0 := by
    rw [State.users_append calls, Phase.uses_of_registration? rfl]
    simp only [decide_eq_true_eq]
  have hshared {l : Nat} {key' : CacheKey}
      (hq : ∃ q ∈ s.pending, q.lock = l ∧ q.key.same key' = true) :
      ∃ q ∈ t.pending, q.lock = l ∧ q.key.same key' = true := by
    obtain ⟨q, hq, hlock, hsame⟩ := hq
    exact ⟨q.joined p.lock, pending ▸ List.mem_map_of_mem hq, by simpa using hlock,
      by simpa using hsame⟩
  refine ⟨?_, ?_, ?_, ?_, ?_, howned ▸ h.exclusive, ?_, held ▸ h.once⟩
  · rw [pending, List.pairwise_map]
    exact h.distinct.imp fun hapart => by simpa [Apart] using hapart
  · rw [pending, lockCount, List.forall_mem_map]
    intro q hq
    rw [Pending.joined_lock]
    exact h.fresh q hq
  · intro i key' l hi
    rw [hregistered] at hi
    split_ifs at hi
    · cases hi
      exact hshared ⟨p, hp, rfl, hkey⟩
    · exact hshared (h.shared hi)
  · rw [pending, List.forall_mem_map]
    intro q hq
    rw [Pending.joined_users, Pending.joined_lock, husers, h.counted q hq]
  · rw [pending, List.forall_mem_map]
    intro q hq
    rw [Pending.joined_users]
    exact Nat.add_pos_left (h.used q hq) _
  · rw [held, howned]
    exact h.held

/-- A call registers under a key that no call is registered under. -/
lemma Locks.register_new (h : Locks s) (hkey : ∀ p ∈ s.pending, p.key.same key = false)
    (calls : t.calls = s.calls ++ [.waiting key s.lockCount])
    (pending : t.pending = s.pending ++ [⟨key, s.lockCount, 1⟩])
    (held : t.held = s.held) (lockCount : t.lockCount = s.lockCount + 1) : Locks t := by
  have hregistered (i : Nat) :
      t.registered i = if i = s.calls.length then some (key, s.lockCount) else s.registered i :=
    State.registered_append calls i
  have howned := State.owned_append calls rfl
  have husers (l : Nat) : t.users l = s.users l + if l = s.lockCount then 1 else 0 := by
    rw [State.users_append calls, Phase.uses_of_registration? rfl]
    simp only [decide_eq_true_eq]
  have hunused : s.users s.lockCount = 0 := by
    by_contra hpos
    obtain ⟨i, key', hi⟩ := State.users_pos_iff.mp (Nat.pos_of_ne_zero hpos)
    obtain ⟨p, hp, hlock, -⟩ := h.shared hi
    have hlt := h.fresh p hp
    omega
  refine ⟨?_, ?_, ?_, ?_, ?_, howned ▸ h.exclusive, ?_, held ▸ h.once⟩
  · rw [pending, List.pairwise_append]
    refine ⟨h.distinct, List.pairwise_singleton _ _, ?_⟩
    intro p hp q hq
    obtain rfl := List.mem_singleton.mp hq
    exact ⟨Nat.ne_of_lt (h.fresh p hp), hkey p hp⟩
  · rw [pending, lockCount, List.forall_mem_append, List.forall_mem_singleton]
    exact ⟨fun p hp => Nat.lt_succ_of_lt (h.fresh p hp), Nat.lt_succ_self _⟩
  · intro i key' l hi
    rw [hregistered] at hi
    rw [pending]
    split_ifs at hi
    · cases hi
      exact ⟨_, List.mem_append_right _ List.mem_cons_self, rfl, CacheKey.same_self _⟩
    · obtain ⟨p, hp, hlock, hsame⟩ := h.shared hi
      exact ⟨p, List.mem_append_left _ hp, hlock, hsame⟩
  · rw [pending, List.forall_mem_append, List.forall_mem_singleton]
    constructor
    · intro p hp
      rw [h.counted p hp, husers, if_neg (Nat.ne_of_lt (h.fresh p hp)), Nat.add_zero]
    · rw [husers, if_pos rfl, hunused]
  · rw [pending, List.forall_mem_append, List.forall_mem_singleton]
    exact ⟨h.used, Nat.one_pos⟩
  · rw [held, howned]
    exact h.held

lemma Locks.register (h : Locks s)
    (calls : t.calls = s.calls ++ [.waiting key (s.register key).2])
    (pending : t.pending = (s.register key).1.pending) (held : t.held = s.held)
    (lockCount : t.lockCount = (s.register key).1.lockCount) : Locks t := by
  unfold State.register at calls pending lockCount
  cases hfind : s.pending? key with
  | some p =>
    rw [hfind] at calls pending lockCount
    have hkey := List.find?_some hfind
    exact h.register_shared (List.mem_of_find?_eq_some hfind) hkey calls pending held lockCount
  | none =>
    rw [hfind] at calls pending lockCount
    have hkey := List.find?_eq_none.mp hfind
    exact h.register_new (fun p hp => by simpa using hkey p hp) calls pending held lockCount

/-- A call takes a lock that no call holds. -/
lemma Locks.acquire (h : Locks s) {call : Nat}
    (before : s.calls[call]? = some (.waiting key lock)) (free : lock ∉ s.held)
    (calls : t.calls = s.calls.set call (.holding key lock)) (pending : t.pending = s.pending)
    (held : t.held = lock :: s.held) (lockCount : t.lockCount = s.lockCount) : Locks t := by
  have hregistered := State.registered_set_of_eq before calls rfl
  have husers := State.users_set_of_eq before calls rfl
  have howned (i : Nat) : t.owned i = if i = call then some lock else s.owned i :=
    State.owned_set before calls i
  have hfree {i : Nat} (hi : s.owned i = some lock) : False := free (h.held.mpr ⟨i, hi⟩)
  have hbefore : s.owned call = none := State.owned_of_call before
  refine ⟨pending ▸ h.distinct, ?_, ?_, ?_, pending ▸ h.used, ?_, ?_, ?_⟩
  · rw [pending, lockCount]
    exact h.fresh
  · rw [pending, hregistered]
    exact h.shared
  · rw [pending, husers]
    exact h.counted
  · intro i j l hi hj
    rw [howned] at hi hj
    split_ifs at hi hj with hic hjc hjc
    · rw [hic, hjc]
    · cases hi
      exact (hfree hj).elim
    · cases hj
      exact (hfree hi).elim
    · exact h.exclusive hi hj
  · intro l
    rw [held, List.mem_cons, h.held]
    constructor
    · rintro (rfl | ⟨i, hi⟩)
      · exact ⟨call, by rw [howned, if_pos rfl]⟩
      · refine ⟨i, ?_⟩
        rw [howned, if_neg, hi]
        rintro rfl
        rw [hbefore] at hi
        cases hi
    · rintro ⟨i, hi⟩
      rw [howned] at hi
      split_ifs at hi with hic
      · cases hi
        exact .inl rfl
      · exact .inr ⟨i, hi⟩
  · rw [held]
    exact List.nodup_cons.mpr ⟨free, h.once⟩

/-- A call gives its lock back. -/
lemma Locks.unlock (h : Locks s) {call : Nat} {r : Result η}
    (before : s.calls[call]? = some (.unlocking key lock r))
    (calls : t.calls = s.calls.set call (.leaving key lock r)) (pending : t.pending = s.pending)
    (held : t.held = s.held.erase lock) (lockCount : t.lockCount = s.lockCount) : Locks t := by
  have hregistered := State.registered_set_of_eq before calls rfl
  have husers := State.users_set_of_eq before calls rfl
  have howned (i : Nat) : t.owned i = if i = call then none else s.owned i :=
    State.owned_set before calls i
  have hbefore : s.owned call = some lock := State.owned_of_call before
  refine ⟨pending ▸ h.distinct, ?_, ?_, ?_, pending ▸ h.used, ?_, ?_, ?_⟩
  · rw [pending, lockCount]
    exact h.fresh
  · rw [pending, hregistered]
    exact h.shared
  · rw [pending, husers]
    exact h.counted
  · intro i j l hi hj
    rw [howned] at hi hj
    split_ifs at hi hj
    exact h.exclusive hi hj
  · intro l
    rw [held, h.once.mem_erase_iff, h.held]
    constructor
    · rintro ⟨hne, i, hi⟩
      refine ⟨i, ?_⟩
      rw [howned, if_neg, hi]
      rintro rfl
      rw [hbefore] at hi
      exact hne (Option.some.inj hi).symm
    · rintro ⟨i, hi⟩
      rw [howned] at hi
      split_ifs at hi with hic
      refine ⟨?_, i, hi⟩
      rintro rfl
      exact hic (h.exclusive hi hbefore)
  · rw [held]
    exact h.once.erase _

/-- A lock stays if it is another one, or if a registration for it is left. -/
lemma exists_left? {ps : List Pending} {p : Pending} (hp : p ∈ ps)
    (hmore : p.lock = lock → 1 < p.users) :
    ∃ q ∈ ps.filterMap (Pending.left? lock), q.lock = p.lock ∧ q.key = p.key := by
  by_cases hlock : p.lock = lock
  · have hleft := Pending.left?_eq_some.mpr (.inr ⟨hlock, hmore hlock, rfl⟩)
    exact ⟨_, List.mem_filterMap.mpr ⟨p, hp, hleft⟩, rfl, rfl⟩
  · have hleft := Pending.left?_eq_some.mpr (.inl ⟨hlock, rfl⟩)
    exact ⟨p, List.mem_filterMap.mpr ⟨p, hp, hleft⟩, rfl, rfl⟩

lemma pairwise_left? {ps : List Pending} (h : ps.Pairwise Apart) :
    (ps.filterMap (Pending.left? lock)).Pairwise Apart := by
  refine h.filterMap _ ?_
  intro p q hapart p' hp' q' hq'
  obtain ⟨hlock, hkey⟩ := Pending.left?_spec hp'
  obtain ⟨hlock', hkey'⟩ := Pending.left?_spec hq'
  rw [Apart, hlock, hlock', hkey, hkey']
  exact hapart

/-- A call ends its registration; the lock stays as long as another call is registered for it. -/
lemma Locks.leave (h : Locks s) {call : Nat} {r : Result η}
    (before : s.calls[call]? = some (.leaving key lock r))
    (calls : t.calls = s.calls.set call (.done r))
    (pending : t.pending = (s.deregister lock).pending) (held : t.held = s.held)
    (lockCount : t.lockCount = s.lockCount) : Locks t := by
  change t.pending = s.pending.filterMap (Pending.left? lock) at pending
  have hregistered (i : Nat) : t.registered i = if i = call then none else s.registered i :=
    State.registered_set before calls i
  have howned := State.owned_set_of_eq before calls rfl
  have husers (l : Nat) : t.users l + (if l = lock then 1 else 0) = s.users l := by
    have hadd := countP_set_add (Phase.uses l) before (.done r)
    rw [← calls, Phase.uses_of_registration? (p := .leaving key lock r) rfl] at hadd
    simp only [decide_eq_true_eq] at hadd
    exact hadd
  refine ⟨?_, ?_, ?_, ?_, ?_, howned ▸ h.exclusive, ?_, held ▸ h.once⟩
  · rw [pending]
    exact pairwise_left? h.distinct
  · rw [pending, lockCount]
    intro p hp
    obtain ⟨q, hq, hleft⟩ := List.mem_filterMap.mp hp
    rw [(Pending.left?_spec hleft).1]
    exact h.fresh q hq
  · intro i key' l hi
    have husers' : 0 < t.users l := State.users_pos_iff.mpr ⟨i, key', hi⟩
    rw [hregistered] at hi
    split_ifs at hi
    obtain ⟨p, hp, rfl, hsame⟩ := h.shared hi
    rw [pending]
    -- the other call on this lock keeps it from being dropped
    have hmore : p.lock = lock → 1 < p.users := by
      intro hlock
      have hcount := husers p.lock
      rw [if_pos hlock, ← h.counted p hp] at hcount
      omega
    obtain ⟨q, hq, hlock, hkey⟩ := exists_left? hp hmore
    exact ⟨q, hq, hlock, by rw [hkey, hsame]⟩
  · rw [pending]
    intro p hp
    obtain ⟨q, hq, hleft⟩ := List.mem_filterMap.mp hp
    have hcount := husers q.lock
    have hq' := h.counted q hq
    rcases Pending.left?_eq_some.mp hleft with ⟨hlock, rfl⟩ | ⟨hlock, -, rfl⟩
    · rw [if_neg hlock] at hcount
      omega
    · rw [if_pos hlock] at hcount
      simp only
      omega
  · rw [pending]
    intro p hp
    obtain ⟨q, hq, hleft⟩ := List.mem_filterMap.mp hp
    rcases Pending.left?_eq_some.mp hleft with ⟨-, rfl⟩ | ⟨-, hlt, rfl⟩
    · exact h.used _ hq
    · simp only
      omega
  · rw [held, howned]
    exact h.held

lemma Locks.change (h : Locks s) {a : Action η} (hchange : Change s t a) : Locks t := by
  cases hchange with
  | join r p free calls _ locks =>
    have hregistered : t.registered = s.registered := by
      funext i
      rw [State.registered, calls, view_append_none free]
      rfl
    have howned : p.ownedLock? = none := by
      by_contra hsome
      obtain ⟨lock, hlock⟩ := Option.ne_none_iff_exists'.mp hsome
      obtain ⟨key, hkey⟩ := Phase.registration?_of_ownedLock? hlock
      rw [free] at hkey
      cases hkey
    have husers : t.users = s.users := by
      funext l
      rw [State.users_append calls]
      simp [Phase.uses, free]
    exact h.frame locks hregistered (State.owned_append calls howned) husers
  | register key _ calls _ pending held lockCount => exact h.register calls pending held lockCount
  | move a call _ p q before calls registered owned _ _ locks =>
    exact h.frame locks (State.registered_set_of_eq before calls registered)
      (State.owned_set_of_eq before calls owned) (State.users_set_of_eq before calls registered)
  | acquire call key lock before free calls _ pending held lockCount =>
    exact h.acquire before free calls pending held lockCount
  | store call key lock _ before calls _ locks =>
    exact h.frame locks (State.registered_set_of_eq before calls rfl)
      (State.owned_set_of_eq before calls rfl) (State.users_set_of_eq before calls rfl)
  | unlock call key lock r before calls _ pending held lockCount =>
    exact h.unlock before calls pending held lockCount
  | leave call key lock r before calls _ pending held lockCount =>
    exact h.leave before calls pending held lockCount

end

variable [Closable η] {s : State η}

theorem Reachable.locks (h : Reachable s) : Locks s := by
  induction h with
  | empty => exact .empty
  | step a _ hstep ih => exact ih.change (change_of_perform hstep)

/-- Calls register under keys that something can be cached under. -/
theorem Reachable.hashable (h : Reachable s) {i lock : Nat} {key : CacheKey}
    (hi : s.registered i = some (key, lock)) : key.isHashable = true := by
  induction h generalizing i key lock with
  | empty => cases hi
  | @step s t a _ hstep ih =>
    have hset {c : Nat} {p q : Phase η} (hc : s.calls[c]? = some p)
        (calls : t.calls = s.calls.set c q) (hq : q.registration? = p.registration?) :
        key.isHashable = true := by
      rw [State.registered_set_of_eq hc calls hq] at hi
      exact ih hi
    cases change_of_perform hstep with
    | join r p free calls _ _ =>
      rw [State.registered_append calls, free] at hi
      split_ifs at hi
      exact ih hi
    | register key' hashable calls _ _ _ _ =>
      rw [State.registered_append calls] at hi
      split_ifs at hi
      · cases hi
        exact hashable
      · exact ih hi
    | move a call _ p q before calls registered _ _ _ _ => exact hset before calls registered
    | acquire call key' lock' before _ calls _ _ _ _ => exact hset before calls rfl
    | store call key' lock' _ before calls _ _ => exact hset before calls rfl
    | unlock call key' lock' r before calls _ _ _ _ => exact hset before calls rfl
    | leave call key' lock' r before calls _ _ _ _ =>
      rw [State.registered_set before calls] at hi
      split_ifs at hi with hic
      · cases hi
      · exact ih hi

/-- The calls past taking their locks have pairwise different keys. -/
theorem Reachable.owner_unique (h : Reachable s) {i j lock lock' : Nat} {key key' : CacheKey}
    (hi : s.registered i = some (key, lock)) (hi' : s.owned i = some lock)
    (hj : s.registered j = some (key', lock')) (hj' : s.owned j = some lock')
    (hsame : key.same key' = true) : i = j := by
  obtain rfl := h.locks.lock_eq hi hj hsame
  exact h.locks.exclusive hi' hj'

end TaggedSuite.Session.Cache
