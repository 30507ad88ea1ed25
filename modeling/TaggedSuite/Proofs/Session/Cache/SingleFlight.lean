import TaggedSuite.Proofs.Session.Cache.Locks
import TaggedSuite.Proofs.Session.Cache.Trace

/-!
# One creation at a time

A creation runs only while its call holds the lock of the key, so no two creations for a key run at
once, whatever is evicted meanwhile. For the same reason nobody else can store an entry under a key
that a call has found nothing under.
-/
namespace TaggedSuite.Session.Cache

variable {η : Type}

namespace State

/-- The call runs a creation for the key. -/
def Creates (s : State η) (call : Nat) (key : CacheKey) : Prop :=
  ∃ lock, s.calls[call]? = some (.creating key lock)

/-- The key that a call has found no entry under, until it stores one or gives up. -/
def missing (s : State η) (call : Nat) : Option CacheKey := view Phase.missing? s.calls call

lemma missing_of_call {s : State η} {i : Nat} {p : Phase η} (h : s.calls[i]? = some p) :
    s.missing i = p.missing? := view_of_call h

/-- A call that misses an entry is registered under its key and holds the lock. -/
lemma owned_of_missing {s : State η} {i : Nat} {key : CacheKey} (h : s.missing i = some key) :
    ∃ lock, s.registered i = some (key, lock) ∧ s.owned i = some lock := by
  obtain ⟨p, hp, hmissing⟩ := view_eq_some.mp h
  rw [registered_of_call hp, owned_of_call hp]
  exact Phase.owned_of_missing? hmissing

end State

variable {s t : State η}

lemma Phase.missing?_of_free {p : Phase η} (h : p.registration? = none) : p.missing? = none := by
  cases p <;> first | rfl | cases h

lemma State.missing_set {c i : Nat} {p q : Phase η} (hc : s.calls[c]? = some p)
    (calls : t.calls = s.calls.set c q) :
    t.missing i = if i = c then q.missing? else s.missing i := by
  rw [missing, calls, view_set hc]
  rfl

lemma State.missing_append {i : Nat} {p : Phase η} (calls : t.calls = s.calls ++ [p])
    (h : p.missing? = none) : t.missing i = s.missing i := by
  rw [missing, calls, view_append_none h]
  rfl

lemma State.entry?_eq_none_iff {key : CacheKey} :
    s.entry? key = none ↔ ∀ e ∈ s.entries, e.key.same key = false := by
  simp [State.entry?]

/-- An entry that is stored does not change what is cached under other keys. -/
lemma State.entry?_store_of_ne {e : Entry η} {key : CacheKey} (h : s.entry? key = none)
    (hne : e.key.same key = false) : State.entry? (s.store e) key = none := by
  rw [entry?_eq_none_iff] at h ⊢
  unfold store
  split_ifs
  · intro e' he'
    obtain ⟨old, hold, rfl⟩ := List.mem_map.mp he'
    split_ifs
    · exact hne
    · exact h old hold
  · intro e' he'
    rcases List.mem_append.mp he' with he' | he'
    · exact h e' he'
    · obtain rfl := List.mem_singleton.mp he'
      exact hne

variable [Closable η]

/-- At most one call misses an entry under a key. -/
lemma Reachable.missing_unique (h : Reachable s) {i j : Nat} {key key' : CacheKey}
    (hi : s.missing i = some key) (hj : s.missing j = some key') (hsame : key.same key' = true) :
    i = j := by
  obtain ⟨lock, hreg, howned⟩ := State.owned_of_missing hi
  obtain ⟨lock', hreg', howned'⟩ := State.owned_of_missing hj
  exact h.owner_unique hreg howned hreg' howned' hsame

/-- No two creations for the same key run at once. -/
theorem Reachable.single_flight (h : Reachable s) {i j : Nat} {key key' : CacheKey}
    (hi : s.Creates i key) (hj : s.Creates j key') (hsame : key.same key' = true) : i = j := by
  obtain ⟨lock, hi⟩ := hi
  obtain ⟨lock', hj⟩ := hj
  exact h.missing_unique (State.missing_of_call hi) (State.missing_of_call hj) hsame

/-- Two callers of one key race while the cache is cleared and another key is created: the second
caller waits, and only the first one runs a creation for the key. -/
theorem single_flight_racing :
    let key := CacheKey.session ⟨"qa", "f1"⟩
    let other := CacheKey.session ⟨"qa", "f2"⟩
    ∃ s : State Nat, Reachable s ∧ s.Creates 0 key ∧ s.Creates 3 other ∧
      s.calls[1]? = some (.waiting key 0) ∧ s.calls[4]? = some (.releasing [] (.all 0)) ∧
        ∀ j, s.Creates j key → 0 = j := by
  intro key other
  have hrun : State.callsAfter [.start (.getOrCreate key), .start (.getOrCreate key), .start .clear,
      .advance 0, .advance 0, .advance 0, .start (.getOrCreate other), .start .clear, .advance 3,
      .advance 3, .advance 3] =
      some ([.creating key 0, .waiting key 0, .releasing [] (.all 0), .creating other 1,
        .releasing [] (.all 0)] : List (Phase Nat)) := by decide
  obtain ⟨s, hs, -, hcalls⟩ := exists_of_callsAfter hrun
  have hfirst : s.Creates 0 key := ⟨0, by rw [hcalls]; rfl⟩
  refine ⟨s, hs, hfirst, ⟨1, by rw [hcalls]; rfl⟩, by rw [hcalls]; rfl, by rw [hcalls]; rfl, ?_⟩
  intro j hj
  exact hs.single_flight hfirst hj (CacheKey.same_self _)

/-- Nothing is cached under a key while a call misses an entry under it. -/
theorem Reachable.entry?_of_missing (h : Reachable s) {i : Nat} {key : CacheKey}
    (hi : s.missing i = some key) : s.entry? key = none := by
  induction h generalizing i key with
  | empty => rfl
  | @step s t a hs hstep ih =>
    -- the new phase of the call misses nothing, or the call was the one that missed before
    have hkeep {c : Nat} {p q : Phase η} (hc : s.calls[c]? = some p)
        (calls : t.calls = s.calls.set c q) (hq : q.missing? = none) :
        i ≠ c ∧ s.missing i = some key := by
      rw [State.missing_set hc calls, hq] at hi
      split_ifs at hi with hic
      exact ⟨hic, hi⟩
    have hentries (entries : t.entries = s.entries) : t.entry? key = s.entry? key := by
      rw [State.entry?, entries]
      rfl
    cases change_of_perform hstep with
    | join r p free calls entries _ =>
      rw [State.missing_append calls (Phase.missing?_of_free free)] at hi
      have habsent := State.entry?_eq_none_iff.mp (ih hi)
      exact State.entry?_eq_none_iff.mpr fun e he => habsent e (entries.subset he)
    | register _ _ calls entries _ _ _ =>
      rw [State.missing_append calls rfl] at hi
      rw [hentries entries, ih hi]
    | move a call _ p q before calls _ _ missing entries _ =>
      rw [hentries entries]
      rw [State.missing_set before calls] at hi
      split_ifs at hi with hic
      · rcases missing key hi with hp | habsent
        · exact ih (i := call) (by rw [State.missing_of_call before, hp])
        · exact habsent
      · exact ih hi
    | acquire call _ lock before _ calls entries _ _ _ =>
      rw [hentries entries, ih (hkeep before calls rfl).2]
    | store call key' lock h' before calls entries _ =>
      obtain ⟨hne, hi⟩ := hkeep before calls rfl
      have hother : key'.same key = false := by
        by_contra hsame
        have hcall : s.missing call = some key' := State.missing_of_call before
        exact hne (hs.missing_unique hcall hi (by simpa using hsame)).symm
      rw [State.entry?, entries]
      exact State.entry?_store_of_ne (ih hi) hother
    | unlock call _ lock r before calls entries _ _ _ =>
      rw [hentries entries, ih (hkeep before calls rfl).2]
    | leave call _ lock r before calls entries _ _ _ =>
      rw [hentries entries, ih (hkeep before calls rfl).2]

end TaggedSuite.Session.Cache
