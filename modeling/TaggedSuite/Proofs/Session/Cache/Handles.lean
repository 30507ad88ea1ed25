import Mathlib.Data.List.Nodup
import TaggedSuite.Proofs.Session.Cache.Nested

/-!
# No handle is lost, and none is released twice

If the creations of a run return different handles, a handle that is stored is in exactly one place
from then on: in the map, with a call that has taken it out, or released. A call that has taken
entries out releases all of them, whatever closing their handles does.
-/
namespace TaggedSuite.Session.Cache

variable {η : Type}

/-- A place where an entry can be. -/
inductive Place where
  /-- In the map, under its key. -/
  | cached (key : CacheKey)
  /-- At a position among the entries that a call has taken out and not released yet. -/
  | evicted (call position : Nat)
  /-- Released, with its number among the releases of the run. -/
  | released (number : Nat)
  deriving DecidableEq

section
variable {β γ : Type} {f : β → List γ} {l : List β} {i j : Nat} {p q : β} {x : γ}

/-- In lists without a common member, a member tells which list it is from. -/
lemma index_of_nodup_flatMap (h : (l.flatMap f).Nodup) (hi : l[i]? = some p)
    (hj : l[j]? = some q) (hp : x ∈ f p) (hq : x ∈ f q) : i = j := by
  have hapart := List.pairwise_iff_getElem.mp (List.nodup_flatMap.mp h).2
  obtain ⟨hlti, rfl⟩ := List.getElem?_eq_some_iff.mp hi
  obtain ⟨hltj, rfl⟩ := List.getElem?_eq_some_iff.mp hj
  rcases Nat.lt_trichotomy i j with hlt | heq | hgt
  · exact (hapart i j hlti hltj hlt hp hq).elim
  · exact heq
  · exact (hapart j i hltj hlti hgt hq hp).elim

/-- In a list without duplicates, a member tells its position. -/
lemma position_of_nodup (h : l.Nodup) (hi : l[i]? = some p) (hj : l[j]? = some p) : i = j := by
  obtain ⟨hlt, -⟩ := List.getElem?_eq_some_iff.mp hi
  exact (List.getElem?_inj hlt h).mp (hi.trans hj.symm)

end

variable [Closable η]

/-- The entry that is in a place after a run. -/
def Place.occupant (as : List (Action η)) (s : State η) : Place → Option (Entry η)
  | cached key => (s.entry? key).filter fun e => e.key = key
  | evicted call position => s.calls[call]?.bind fun p => p.evicted[position]?
  | released number => (State.empty.released as)[number]?.map (·.2)

/-- Whether a handle is in a place after a run. -/
def Place.Holds (as : List (Action η)) (s : State η) (h : η) (p : Place) : Prop :=
  (p.occupant as s).map (·.handle) = some h

section
variable {as : List (Action η)} {s t : State η} {e : Entry η} {p q : Place}

lemma Place.mem_of_cached {key : CacheKey} (h : (cached key).occupant as s = some e) :
    e ∈ s.entries ∧ e.key = key := by
  rw [occupant, Option.filter_eq_some_iff, decide_eq_true_eq] at h
  exact ⟨List.mem_of_find?_eq_some h.1, h.2⟩

lemma Place.mem_of_evicted {call position : Nat}
    (h : (evicted call position).occupant as s = some e) :
    ∃ p, s.calls[call]? = some p ∧ p.evicted[position]? = some e :=
  Option.bind_eq_some_iff.mp h

lemma Place.mem_gather_of_evicted {call position : Nat}
    (h : (evicted call position).occupant as s = some e) : e ∈ s.gather Phase.evicted := by
  obtain ⟨p, hp, hposition⟩ := mem_of_evicted h
  exact List.mem_flatMap.mpr ⟨p, List.mem_of_getElem? hp, List.mem_of_getElem? hposition⟩

lemma Place.mem_of_released {number : Nat} (h : (released number).occupant as s = some e) :
    ((State.empty.released as).map (·.2))[number]? = some e := by
  rw [List.getElem?_map]
  exact h

/-- The entries that the cache answers for, and those that are released, are in places. -/
lemma Place.exists_of_mem (distinct : s.entries.Pairwise fun a b => a.key.same b.key = false)
    (he : e ∈ s.kept ++ (State.empty.released as).map (·.2)) :
    ∃ p : Place, p.occupant as s = some e := by
  rw [State.kept, List.mem_append, List.mem_append] at he
  rcases he with (he | he) | he
  · refine ⟨cached e.key, ?_⟩
    rw [occupant, State.entry?_of_mem distinct he]
    simp
  · obtain ⟨p, hp, he⟩ := List.mem_flatMap.mp he
    obtain ⟨call, hcall⟩ := List.mem_iff_getElem?.mp hp
    obtain ⟨position, hposition⟩ := List.mem_iff_getElem?.mp he
    exact ⟨evicted call position, Option.bind_eq_some_iff.mpr ⟨p, hcall, hposition⟩⟩
  · obtain ⟨number, hnumber⟩ := List.mem_iff_getElem?.mp he
    rw [List.getElem?_map] at hnumber
    exact ⟨released number, hnumber⟩

/-- No entry is in two places if none of them is kept or released twice. -/
lemma Place.unique (once : (s.kept ++ (State.empty.released as).map (·.2)).Nodup)
    (hp : p.occupant as s = some e) (hq : q.occupant as s = some e) : p = q := by
  obtain ⟨hkept, hreleased, hgone⟩ := List.nodup_append.mp once
  obtain ⟨-, hevicted, hout⟩ := List.nodup_append.mp hkept
  have hcachedEvicted (hin : e ∈ s.entries) (hto : e ∈ s.gather Phase.evicted) : False :=
    hout e hin e hto rfl
  have hkeptReleased {number : Nat} (hin : e ∈ s.kept)
      (hto : (released number).occupant as s = some e) : False :=
    hgone e hin e (List.mem_of_getElem? (mem_of_released hto)) rfl
  cases p with
  | cached key =>
    obtain ⟨hin, rfl⟩ := mem_of_cached hp
    cases q with
    | cached key' => rw [(mem_of_cached hq).2]
    | evicted call position => exact (hcachedEvicted hin (mem_gather_of_evicted hq)).elim
    | released number => exact (hkeptReleased (List.mem_append_left _ hin) hq).elim
  | evicted call position =>
    have hin := mem_gather_of_evicted hp
    cases q with
    | cached key => exact (hcachedEvicted (mem_of_cached hq).1 hin).elim
    | evicted call' position' =>
      obtain ⟨p, hcall, hposition⟩ := mem_of_evicted hp
      obtain ⟨q, hcall', hposition'⟩ := mem_of_evicted hq
      obtain rfl := index_of_nodup_flatMap hevicted hcall hcall' (List.mem_of_getElem? hposition)
        (List.mem_of_getElem? hposition')
      obtain rfl := Option.some.inj (hcall.symm.trans hcall')
      have honce := (List.nodup_flatMap.mp hevicted).1 p (List.mem_of_getElem? hcall)
      rw [position_of_nodup honce hposition hposition']
    | released number => exact (hkeptReleased (List.mem_append_right _ hin) hq).elim
  | released number =>
    cases q with
    | cached key => exact (hkeptReleased (List.mem_append_left _ (mem_of_cached hq).1) hp).elim
    | evicted call position =>
      exact (hkeptReleased (List.mem_append_right _ (mem_gather_of_evicted hq)) hp).elim
    | released number' =>
      rw [position_of_nodup hreleased (mem_of_released hp) (mem_of_released hq)]

/-- A release closes the handle of the entry, if that can be closed. -/
lemma closed_release (s : State η) (e : Entry η) :
    (s.release e).closed = s.closed ++ [e.handle].filter closes := by
  unfold State.release
  cases hclosing : Closable.closing e.handle <;> simp [closes, hclosing, State.say]

/-- A step of another call leaves a call where it is. -/
lemma call_of_other {a : Action η} {i : Nat} {p : Phase η} (hstep : s.perform a = some t)
    (hi : s.calls[i]? = some p) (hother : a.call? ≠ some i) : t.calls[i]? = some p := by
  have happend {q : Phase η} (calls : t.calls = s.calls ++ [q]) : t.calls[i]? = some p := by
    obtain ⟨hlt, -⟩ := List.getElem?_eq_some_iff.mp hi
    rw [calls, List.getElem?_append_left hlt, hi]
  have hset {c : Nat} {q : Phase η} (hc : a.call? = some c) (calls : t.calls = s.calls.set c q) :
      t.calls[i]? = some p := by
    have hne : c ≠ i := by
      rintro rfl
      exact hother hc
    rw [calls, List.getElem?_set_ne hne, hi]
  cases change_of_perform hstep with
  | join _ _ _ calls _ _ => exact happend calls
  | register _ _ calls _ _ _ _ => exact happend calls
  | move _ _ on _ _ _ calls _ _ _ _ _ => exact hset on calls
  | acquire _ _ _ _ _ calls _ _ _ _ => exact hset rfl calls
  | store _ _ _ _ _ calls _ _ => exact hset rfl calls
  | unlock _ _ _ _ _ calls _ _ _ _ => exact hset rfl calls
  | leave _ _ _ _ _ calls _ _ _ _ => exact hset rfl calls

/-- How far a call has come with the entries that it has to release: it is still at it, or has
released all of them and has its result. -/
def Releases (s : State η) (call : Nat) (left : List (Entry η)) (why : Eviction) : Prop :=
  s.calls[call]? = some (.releasing left why) ∨
    left = [] ∧ s.calls[call]? = some (.done (State.evictionResult why))

/-- The entries that a call releases in a run, in order. -/
def releasedBy (call : Nat) (s : State η) (as : List (Action η)) : List (Entry η) :=
  ((s.released as).filter (·.1 = call)).map (·.2)

lemma Releases.step {call : Nat} {left : List (Entry η)} {why : Eviction} {a : Action η}
    (h : Releases s call left why) (hstep : s.perform a = some t) :
    ∃ left', Releases t call left' why ∧
      ((s.releases a).filter (·.1 = call)).map (·.2) ++ left' = left := by
  by_cases hcall : a = .advance call
  · subst hcall
    obtain ⟨p, q, u, hp, hgoes, rfl⟩ := goesOn_of_advance hstep
    obtain ⟨hlt, -⟩ := List.getElem?_eq_some_iff.mp hp
    rcases h with h | ⟨-, h⟩
    · obtain rfl := Option.some.inj (hp.symm.trans h)
      cases hgoes with
      | @release e rest why =>
        refine ⟨rest, .inl ?_, by simp [State.releases, h]⟩
        have hcalls := (release_frame s e).1
        simp [State.move, hcalls, hlt]
      | report => exact ⟨[], .inr ⟨rfl, by simp [State.move, hlt]⟩, by simp [State.releases, h]⟩
    · obtain rfl := Option.some.inj (hp.symm.trans h)
      cases hgoes
  · have hother : a.call? ≠ some call := by
      cases a with
      | start r =>
        intro hc
        cases hc
      | advance c =>
        intro hc
        exact hcall (congrArg Action.advance (Option.some.inj hc))
      | finish c outcome =>
        intro hc
        obtain rfl := Option.some.inj hc
        obtain ⟨p, q, hp, hends, -⟩ := ends_of_finish hstep
        rcases h with h | ⟨-, h⟩ <;> obtain rfl := Option.some.inj (hp.symm.trans h) <;> cases hends
    have hnone : (s.releases a).filter (·.1 = call) = [] := by
      cases a with
      | start r => rfl
      | advance c =>
        have hne : c ≠ call := fun hc => hother (congrArg some hc)
        rw [State.releases]
        split <;> simp [hne]
      | finish c outcome => rfl
    refine ⟨left, ?_, by rw [hnone]; rfl⟩
    have hstays {p : Phase η} (hp : s.calls[call]? = some p) : t.calls[call]? = some p :=
      call_of_other hstep hp hother
    exact h.imp hstays (And.imp_right hstays)

/-- A call that has taken entries out releases them in order, whatever else happens and whatever
closing their handles does. -/
theorem Releases.run {call : Nat} {left : List (Entry η)} {why : Eviction}
    (h : Releases s call left why) (has : s.performAll as = some t) :
    ∃ left', Releases t call left' why ∧ releasedBy call s as ++ left' = left := by
  induction as generalizing s left with
  | nil =>
    cases has
    exact ⟨left, h, rfl⟩
  | cons a as ih =>
    obtain ⟨mid, hstep, has⟩ := State.performAll_cons.mp has
    obtain ⟨left₁, hmid, hfirst⟩ := h.step hstep
    obtain ⟨left₂, hlast, hrest⟩ := ih hmid has
    refine ⟨left₂, hlast, ?_⟩
    simp only [releasedBy, State.released] at hrest
    simp only [releasedBy, State.released, State.seen, hstep, List.filter_append, List.map_append,
      List.append_assoc]
    rw [hrest, hfirst]

end

/-- A handle that is closed in a given way. -/
structure ScriptedHandle where
  number : Nat
  closing : Closing
  deriving DecidableEq

instance : Closable ScriptedHandle where
  closing h := h.closing

end TaggedSuite.Session.Cache
