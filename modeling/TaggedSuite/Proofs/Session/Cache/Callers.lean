import Mathlib.Data.List.Basic
import TaggedSuite.Proofs.Session.Cache.Origins
import TaggedSuite.Proofs.Session.Cache.Sharing

/-!
# The callers of one key

A run in which calls get or create the handle of a key decides these calls in some order, and makes
the attempts of their creations in the same order. So the callers share the creations as they do on
a plain map.
-/
namespace TaggedSuite.Session.Cache

variable {η : Type}

/-- The calls that a run starts to get or create the handle of the key. Before the run, `first`
calls were started. -/
def callers (key : CacheKey) (first : Nat) (as : List (Action η)) : List Nat :=
  (((requests as).zipIdx first).filter fun r => r.1.gets key).map (·.2)

/-- How the creations end that a run starts for these callers, in order. -/
def attempts (key : CacheKey) (first : Nat) (as : List (Action η)) : List (Outcome η) :=
  endings (· ∈ callers key first as) as

/-- Callers of a key come together: nothing is cached under the key and nobody is at it before the
run, the run takes out nothing from under it, and all callers are done after the run. Of their
attempts, the first `f` fail. -/
structure Burst (s : State η) (as : List (Action η)) (t : State η) (key : CacheKey) (f : Nat) :
    Prop where
  absent : s.entry? key = none
  idle : ∀ {i k lock}, s.registered i = some (k, lock) → k.same key = false
  kept : ∀ r ∈ requests as, r.evicts key = false
  done : ∀ i ∈ callers key s.calls.length as, ∃ r, t.result? i = some r
  fails : FailsFirst f (attempts key s.calls.length as)

section
variable {s t : State η} {key : CacheKey} {first i : Nat} {as bs : List (Action η)}

lemma Phase.registration?_of_undecided {p : Phase η} (h : p.verdict? = none) :
    ∃ key lock, p.registration? = some (key, lock) := by
  cases p <;> cases h <;> exact ⟨_, _, rfl⟩

lemma requests_append : requests (as ++ bs) = requests as ++ requests bs :=
  List.filterMap_append

lemma endings_append {calls : Nat → Bool} :
    endings calls (as ++ bs) = endings calls as ++ endings calls bs :=
  List.filterMap_append

lemma mem_callers : i ∈ callers key first as ↔
    first ≤ i ∧ ∃ r, (requests as)[i - first]? = some r ∧ r.gets key = true := by
  simp only [callers, List.mem_map, List.mem_filter, Prod.exists,
    List.mk_mem_zipIdx_iff_le_and_getElem?_sub]
  constructor
  · rintro ⟨r, _, ⟨⟨hle, hr⟩, hgets⟩, rfl⟩
    exact ⟨hle, r, hr, hgets⟩
  · rintro ⟨hle, r, hr, hgets⟩
    exact ⟨r, i, ⟨⟨hle, hr⟩, hgets⟩, rfl⟩

lemma callers_nodup : (callers key first as).Nodup := by
  have hcalls : ((requests as).zipIdx first).map (·.2) = List.range' first (requests as).length :=
    List.zipIdx_map_snd first _
  refine (List.filter_sublist.map _).nodup ?_
  rw [hcalls]
  exact List.nodup_range'

end

variable [Closable η] {s t : State η} {key : CacheKey} {f i : Nat} {as₀ as : List (Action η)}
  {d : Decision η}

/-- A call that a run decides was registered before the run, or is one that the run starts. -/
lemma request_of_later_decision (hbefore : State.empty.performAll as₀ = some s)
    (has : s.performAll as = some t) (hd : d ∈ s.decisions as) :
    (∃ k lock, s.registered d.call = some (k, lock) ∧ d.request = .getOrCreate k) ∨
      s.calls.length ≤ d.call ∧ (requests as)[d.call - s.calls.length]? = some d.request := by
  have hasked := asked_of_run hbefore
  have hrequest : (requests as₀ ++ requests as)[d.call]? = some d.request := by
    rw [← requests_append]
    refine request_of_decision (t := t) (by rw [State.performAll_append hbefore, has]) ?_
    rw [State.decisions_append hbefore]
    exact List.mem_append_right _ hd
  rcases Nat.lt_or_ge d.call s.calls.length with hlt | hle
  · obtain ⟨results, hrun⟩ := (Reachable.empty.performAll hbefore).explains has
    obtain ⟨r, hr, -⟩ := hrun.exists_result hd
    have hcall := List.getElem?_eq_getElem hlt
    have hundecided := hrun.undecided hr
    rw [State.verdict_of_call hcall] at hundecided
    obtain ⟨k, lock, hreg⟩ := Phase.registration?_of_undecided hundecided
    rw [← State.registered_of_call hcall] at hreg
    refine .inl ⟨k, lock, hreg, ?_⟩
    rw [List.getElem?_append_left (hasked.length ▸ hlt), hasked.registered hreg] at hrequest
    exact (Option.some.inj hrequest).symm
  · rw [List.getElem?_append_right (hasked.length ▸ hle), ← hasked.length] at hrequest
    exact .inr ⟨hle, hrequest⟩

/-- A caller was started with a request for the key. -/
lemma request_of_caller (hbefore : State.empty.performAll as₀ = some s)
    (hi : i ∈ callers key s.calls.length as) :
    ∃ k, (requests (as₀ ++ as))[i]? = some (.getOrCreate k) ∧ k.same key = true := by
  have hlength := (asked_of_run hbefore).length
  obtain ⟨hle, r, hr, hgets⟩ := mem_callers.mp hi
  obtain ⟨k, rfl, hsame⟩ := Request.eq_getOrCreate_of_gets hgets
  refine ⟨k, ?_, hsame⟩
  rw [requests_append, List.getElem?_append_right (hlength ▸ hle), ← hlength, hr]

/-- At most one of the callers is past finding nothing under the key. -/
lemma alone_of_callers (hbefore : State.empty.performAll as₀ = some s) {bs : List (Action η)}
    {u : State η} (hinitial : bs <+: as₀ ++ as) (hbs : State.empty.performAll bs = some u) :
    Alone (· ∈ callers key s.calls.length as) u := by
  have hkey {i : Nat} {k : CacheKey} (hi : i ∈ callers key s.calls.length as)
      (hmissing : u.missing i = some k) : k.same key = true := by
    obtain ⟨k', hrequest, hsame⟩ := request_of_caller hbefore hi
    obtain ⟨lock, hreg, -⟩ := State.owned_of_missing hmissing
    have hasked := (asked_of_run hbs).registered hreg
    obtain ⟨cs, hcs⟩ := hinitial
    obtain ⟨hlt, -⟩ := List.getElem?_eq_some_iff.mp hasked
    rw [← hcs, requests_append, List.getElem?_append_left hlt, hasked] at hrequest
    cases hrequest
    exact hsame
  intro i j k k' hi hj hmissing hmissing'
  have hk := hkey (of_decide_eq_true hi) hmissing
  have hk' := hkey (of_decide_eq_true hj) hmissing'
  rw [CacheKey.same_comm] at hk'
  exact (Reachable.empty.performAll hbs).missing_unique hmissing hmissing'
    (CacheKey.same_trans hk hk')

namespace Burst

variable (h : Burst s as t key f) (hbefore : State.empty.performAll as₀ = some s)
  (has : s.performAll as = some t)
include h hbefore has

lemma keeps (hd : d ∈ s.decisions as) : d.request.evicts key = false := by
  rcases request_of_later_decision hbefore has hd with ⟨k, lock, -, hrequest⟩ | ⟨-, hrequest⟩
  · rw [hrequest]
    rfl
  · exact h.kept _ (List.mem_of_getElem? hrequest)

lemma mem_callers_iff (hd : d ∈ s.decisions as) :
    d.call ∈ callers key s.calls.length as ↔ d.request.gets key = true := by
  rw [mem_callers]
  rcases request_of_later_decision hbefore has hd with ⟨k, lock, hreg, hrequest⟩ | ⟨hle, hrequest⟩
  · obtain ⟨p, hp, -⟩ := view_eq_some.mp hreg
    obtain ⟨hlt, -⟩ := List.getElem?_eq_some_iff.mp hp
    refine iff_of_false (fun hcaller => Nat.not_le.mpr hlt hcaller.1) ?_
    rw [hrequest, Request.gets, h.idle hreg]
    exact Bool.false_ne_true
  · simp [hle, hrequest]

/-- The callers are the calls that the run decides for the key. -/
lemma callers_perm :
    (((s.decisions as).filter (·.request.gets key)).map (·.call)).Perm
      (callers key s.calls.length as) := by
  obtain ⟨results, hrun⟩ := (Reachable.empty.performAll hbefore).explains has
  have honce : (((s.decisions as).filter (·.request.gets key)).map (·.call)).Nodup :=
    (List.filter_sublist.map _).nodup hrun.once
  rw [List.perm_ext_iff_of_nodup honce callers_nodup]
  intro i
  rw [List.mem_map]
  constructor
  · rintro ⟨d, hd, rfl⟩
    obtain ⟨hd, hgets⟩ := List.mem_filter.mp hd
    exact (h.mem_callers_iff hbefore has hd).mpr hgets
  · intro hi
    obtain ⟨r, hr⟩ := h.done i hi
    obtain ⟨d, hd, rfl⟩ := hrun.exists_decision (mem_callers.mp hi).1 hr
    exact ⟨d, List.mem_filter.mpr ⟨hd, (h.mem_callers_iff hbefore has hd).mp hi⟩, rfl⟩

/-- The attempts are the creations of the calls that the run decides for the key. -/
lemma attempts_eq : attempts key s.calls.length as =
    ((s.decisions as).filter (·.request.gets key)).filterMap (·.creation?) := by
  have hwhole : State.empty.performAll (as₀ ++ as) = some t := by
    rw [State.performAll_append hbefore, has]
  have halone {bs : List (Action η)} {u : State η} (hinitial : bs <+: as₀ ++ as)
      (hbs : State.empty.performAll bs = some u) : Alone (· ∈ callers key s.calls.length as) u :=
    alone_of_callers hbefore hinitial hbs
  obtain ⟨left₀, hbalance₀⟩ := accounts_of_run hbefore fun hinitial =>
    halone (hinitial.trans (List.prefix_append _ _))
  obtain ⟨left, hbalance⟩ := accounts_of_run hwhole halone
  have hleft₀ := hbalance₀.left_eq_none fun {i} hi =>
    State.unstored_eq_none_of_le (mem_callers.mp (of_decide_eq_true hi)).1
  have hleft := hbalance.left_eq_none fun {i} hi => by
    obtain ⟨r, hr⟩ := h.done i (of_decide_eq_true hi)
    exact State.unstored_of_verdict (State.verdict_of_result? hr)
  have hended := hbalance.ended
  rw [endings_append, hbalance₀.ended, hleft₀, hleft, State.decisions_append hbefore,
    List.filterMap_append, Option.toList_none, List.append_nil, List.append_nil] at hended
  rw [attempts, List.append_cancel_left hended, List.filterMap_filter]
  refine List.filterMap_congr fun d hd => ?_
  simp only [Decision.creationOf?, decide_eq_true_eq, h.mem_callers_iff hbefore has hd]

end Burst

/-- Callers of a key that come together make attempts until one succeeds, and share its handle. -/
theorem Reachable.counts (hs : Reachable s) (has : s.performAll as = some t)
    (hkey : key.isHashable = true) (h : Burst s as t key f) :
    Counts t.result? f (callers key s.calls.length as) (attempts key s.calls.length as) := by
  obtain ⟨as₀, hbefore⟩ := hs.exists_run
  obtain ⟨results, hrun⟩ := hs.explains has
  have hshared : Shared t.verdict ((s.decisions as).filter (·.request.gets key)) :=
    PlainMap.run_absent hrun.plain hkey (fun d hd => h.keeps hbefore has hd)
      (fun hi => hrun.decided.mpr (.inr hi)) h.absent
  have hattempts := h.attempts_eq hbefore has
  have hcounts := hshared.counts (hattempts ▸ h.fails)
  rw [hattempts]
  refine hcounts.transfer (h.callers_perm hbefore has) fun i hi => ?_
  obtain ⟨r, hr⟩ := h.done i hi
  rw [hr, State.verdict_of_result? hr]

end TaggedSuite.Session.Cache
