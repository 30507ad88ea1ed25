import Mathlib.Data.List.Flatten
import Mathlib.Data.List.Perm.Basic
import TaggedSuite.Proofs.Session.Cache.Decisions

/-!
# Who answers for a handle

An entry that is stored is in the map until a call takes it out, and then with that call until the
call releases it. No step loses an entry or makes a second one of it. What the steps of a run store
and release is read off the run; the state itself keeps only the handles that were closed.
-/
namespace TaggedSuite.Session.Cache

variable {η : Type}

namespace Phase

/-- The entries that a call has taken out and not released yet. -/
def evicted : Phase η → List (Entry η)
  | releasing rest _ => rest
  | _ => []

/-- The entry that a call stores next. -/
def entering : Phase η → List (Entry η)
  | created key _ h => [⟨key, h⟩]
  | _ => []

end Phase

/-- The handle that a creation returns with a step. -/
def Action.returns : Action η → List η
  | .finish _ (.ok h) => [h]
  | _ => []

/-- The handles that the creations of a run return, in order. -/
def returned (as : List (Action η)) : List η := as.flatMap Action.returns

/-- Whether a handle can be closed, be it with an error. -/
def closes [Closable η] (h : η) : Bool := Closable.closing h != .absent

namespace State

/-- The entry that a step stores. -/
def stores (s : State η) : Action η → List (Entry η)
  | .advance call =>
    match s.calls[call]? with
    | some p => p.entering
    | none => []
  | _ => []

/-- The entry that a step releases, with the call that had taken it out. -/
def releases (s : State η) : Action η → List (Nat × Entry η)
  | .advance call =>
    match s.calls[call]? with
    | some (.releasing (e :: _) _) => [(call, e)]
    | _ => []
  | _ => []

/-- What calls have of something, call after call. -/
def gather {α : Type} (f : Phase η → List α) (s : State η) : List α := s.calls.flatMap f

/-- The entries that the cache answers for: those in the map, and those that calls have taken out
and not released yet. -/
def kept (s : State η) : List (Entry η) := s.entries ++ s.gather Phase.evicted

/-- What is seen of the steps of a run, each in the state that it is taken in. -/
def seen [Closable η] {α : Type} (f : State η → Action η → List α) (s : State η) :
    List (Action η) → List α
  | [] => []
  | a :: as =>
    f s a ++
      match s.perform a with
      | some t => seen f t as
      | none => []

/-- The entries that a run stores, in order. -/
def stored [Closable η] (s : State η) (as : List (Action η)) : List (Entry η) := s.seen stores as

/-- The entries that a run releases, in order, each with the call that had taken it out. -/
def released [Closable η] (s : State η) (as : List (Action η)) : List (Nat × Entry η) :=
  s.seen releases as

end State

section
variable {α : Type} {f : Phase η → List α} {s t : State η} {p q : Phase η} {c : Nat}

end

section
variable {s t : State η} {e : Entry η}

/-- The entry that is found under a key is the only one with that key. -/
lemma filter_same_of_find? {es : List (Entry η)} {key : CacheKey}
    (distinct : es.Pairwise fun a b => a.key.same b.key = false)
    (he : es.find? (fun e => e.key.same key) = some e) :
    es.filter (fun e => e.key.same key) = [e] := by
  induction es with
  | nil => cases he
  | cons a es ih =>
    obtain ⟨ha, hes⟩ := List.pairwise_cons.mp distinct
    cases hkey : a.key.same key with
    | false =>
      simp only [List.find?_cons, hkey] at he
      rw [List.filter_cons_of_neg (by simp [hkey])]
      exact ih hes he
    | true =>
      simp only [List.find?_cons, hkey, Option.some.injEq] at he
      subst he
      have hrest : es.filter (fun e => e.key.same key) = [] := by
        rw [List.filter_eq_nil_iff]
        intro b hb hsame
        rw [CacheKey.same_comm] at hsame
        have hboth := CacheKey.same_trans hkey hsame
        rw [ha b hb] at hboth
        cases hboth
      simp only [List.filter_cons, hkey, hrest, if_true]

/-- An entry of the map is found under its key. -/
lemma State.entry?_of_mem (distinct : s.entries.Pairwise fun a b => a.key.same b.key = false)
    (he : e ∈ s.entries) : s.entry? e.key = some e := by
  have hfound : (s.entry? e.key).isSome :=
    List.find?_isSome.mpr ⟨e, he, CacheKey.same_self e.key⟩
  obtain ⟨e', he'⟩ := Option.isSome_iff_exists.mp hfound
  have hout := filter_same_of_find? distinct he'
  have hmem : e ∈ s.entries.filter fun a => a.key.same e.key :=
    List.mem_filter.mpr ⟨he, CacheKey.same_self _⟩
  rw [hout, List.mem_singleton] at hmem
  rw [he', hmem]

variable [Closable η] {a : Action η}

/-- No two entries have the same key. -/
theorem Reachable.distinct (h : Reachable s) :
    s.entries.Pairwise fun a b => a.key.same b.key = false := by
  induction h with
  | empty => exact .nil
  | @step s t a hs hstep ih =>
    cases change_of_perform hstep with
    | join _ _ _ _ entries _ => exact ih.sublist entries
    | store call key lock h before _ entries _ =>
      have habsent := hs.entry?_of_missing (State.missing_of_call before)
      rw [entries, State.entries_store_of_absent habsent, List.pairwise_append]
      refine ⟨ih, List.pairwise_singleton _ _, fun e he e' he' => ?_⟩
      rw [List.mem_singleton.mp he']
      exact State.entry?_eq_none_iff.mp habsent e he
    | register _ _ _ entries _ _ _ | move _ _ _ _ _ _ _ _ _ _ entries _
    | acquire _ _ _ _ _ _ entries _ _ _ | unlock _ _ _ _ _ _ entries _ _ _
    | leave _ _ _ _ _ _ entries _ _ _ =>
      rw [entries]
      exact ih

section
variable {α : Type} {as : List (Action η)}

/-- A balance that every step keeps is kept by a run. -/
lemma Reachable.balance {inflow outflow : State η → Action η → List α} (stock : State η → List α)
    (step : ∀ {s t a}, Reachable s → s.perform a = some t →
      (inflow s a ++ stock s).Perm (stock t ++ outflow s a))
    (hs : Reachable s) (has : s.performAll as = some t) :
    (s.seen inflow as ++ stock s).Perm (stock t ++ s.seen outflow as) := by
  induction as generalizing s with
  | nil =>
    cases has
    simp [State.seen]
  | cons a as ih =>
    obtain ⟨mid, hstep, has⟩ := State.performAll_cons.mp has
    simp only [State.seen, hstep]
    calc inflow s a ++ mid.seen inflow as ++ stock s
        _ |>.Perm (mid.seen inflow as ++ inflow s a ++ stock s) :=
          List.perm_append_comm.append_right _
        _ = mid.seen inflow as ++ (inflow s a ++ stock s) := List.append_assoc _ _ _
        _ |>.Perm (mid.seen inflow as ++ (stock mid ++ outflow s a)) :=
          (step hs hstep).append_left _
        _ = mid.seen inflow as ++ stock mid ++ outflow s a := (List.append_assoc _ _ _).symm
        _ |>.Perm (stock t ++ mid.seen outflow as ++ outflow s a) :=
          (ih (.step a hs hstep) has).append_right _
        _ = stock t ++ (mid.seen outflow as ++ outflow s a) := List.append_assoc _ _ _
        _ |>.Perm (stock t ++ (outflow s a ++ mid.seen outflow as)) :=
          List.perm_append_comm.append_left _

end

end

end TaggedSuite.Session.Cache
