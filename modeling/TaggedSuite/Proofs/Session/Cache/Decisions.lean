import TaggedSuite.Proofs.Session.Cache.Plain
import TaggedSuite.Proofs.Session.Cache.SingleFlight
import TaggedSuite.Session.Cache.Run

/-!
# The deciding steps of the calls

Each call has one step that decides it: the check that finds an entry, the storing of a new entry,
the end of a creation that fails, a look into the registry or a removal. In the order of these steps
the calls act on the entries as on a plain map. All other steps leave the entries alone.
-/
namespace TaggedSuite.Session.Cache

variable {η : Type}

/-- The result of a call that is decided, which it may still have to report. -/
def Phase.verdict? : Phase η → Option (Result η)
  | failed key _ f => some (.raised (f.raised key))
  | unlocking _ _ r | leaving _ _ r | done r => some r
  | releasing _ why => some (State.evictionResult why)
  | waiting .. | holding .. | missed .. | creating .. | created .. => none

namespace State

/-- The result of a call that is decided. -/
def verdict (s : State η) (call : Nat) : Option (Result η) := view Phase.verdict? s.calls call

/-- Whether a call with this request is decided by its first step. -/
def decidesAtOnce (s : State η) : Request → Bool
  | .getOrCreate key => !key.isHashable || (s.entry? key).isSome
  | _ => true

/-- The call that a step decides. -/
def decision? (s : State η) : Action η → Option (Decision η)
  | .start r => if s.decidesAtOnce r then some ⟨s.calls.length, r, none⟩ else none
  | .advance call =>
    match s.calls[call]? with
    | some (.holding key _) =>
      if (s.entry? key).isSome then some ⟨call, .getOrCreate key, none⟩ else none
    | some (.created key _ h) => some ⟨call, .getOrCreate key, some (.ok h)⟩
    | _ => none
  | .finish call outcome =>
    match s.calls[call]?, outcome with
    | some (.creating key _), .error f => some ⟨call, .getOrCreate key, some (.error f)⟩
    | _, _ => none

/-- The calls that the steps of a run decide, in order. -/
def decisions [Closable η] (s : State η) : List (Action η) → List (Decision η)
  | [] => []
  | a :: as =>
    (s.decision? a).toList ++
      match s.perform a with
      | some t => decisions t as
      | none => []

end State

/-- What a step does to the entries and to the decided calls: it decides the call, which acts as on
a plain map, or it changes nothing about them. -/
inductive Settles (s t : State η) : Option (Decision η) → Prop where
  | undecided (entries : t.entries = s.entries) (verdicts : t.verdict = s.verdict) :
      Settles s t none
  | decided (d : Decision η) (r : Result η) (undecided : s.verdict d.call = none)
      (acts : PlainMap.call s.entries d.request d.creation? = some (t.entries, r))
      (verdicts : ∀ i, t.verdict i = if i = d.call then some r else s.verdict i) :
      Settles s t (some d)

section
variable {s t : State η}

lemma State.verdict_append {p : Phase η} (calls : t.calls = s.calls ++ [p]) (i : Nat) :
    t.verdict i = if i = s.calls.length then p.verdict? else s.verdict i := by
  rw [verdict, calls, view_append]
  rfl

lemma State.verdict_set {c : Nat} {p q : Phase η} (hc : s.calls[c]? = some p)
    (calls : t.calls = s.calls.set c q) (i : Nat) :
    t.verdict i = if i = c then q.verdict? else s.verdict i := by
  rw [verdict, calls, view_set hc]
  rfl

lemma State.verdict_set_of_eq {c : Nat} {p q : Phase η} (hc : s.calls[c]? = some p)
    (calls : t.calls = s.calls.set c q) (h : q.verdict? = p.verdict?) : t.verdict = s.verdict := by
  funext i
  rw [verdict, calls, view_set_of_eq hc h]
  rfl

lemma State.verdict_of_call {i : Nat} {p : Phase η} (h : s.calls[i]? = some p) :
    s.verdict i = p.verdict? := view_of_call h

lemma State.result?_eq_some {i : Nat} {r : Result η} :
    s.result? i = some r ↔ s.calls[i]? = some (.done r) := by
  unfold result?
  split <;> simp_all

lemma State.verdict_of_result? {i : Nat} {r : Result η} (h : s.result? i = some r) :
    s.verdict i = some r :=
  verdict_of_call (result?_eq_some.mp h)

lemma State.verdict_eq_none_of_le {i : Nat} (h : s.calls.length ≤ i) : s.verdict i = none := by
  simp [verdict, view, h]

lemma State.verdict_length : s.verdict s.calls.length = none :=
  verdict_eq_none_of_le (Nat.le_refl _)

/-- A call that its first step decides. -/
lemma Settles.join {r : Request} {p : Phase η} {result : Result η}
    (calls : t.calls = s.calls ++ [p]) (verdict : p.verdict? = some result)
    (acts : PlainMap.call s.entries r none = some (t.entries, result)) :
    Settles s t (some ⟨s.calls.length, r, none⟩) := by
  refine .decided _ result State.verdict_length acts fun i => ?_
  rw [State.verdict_append calls, verdict]

/-- A call that a later step decides. -/
lemma Settles.decide {c : Nat} {p q : Phase η} {r : Request} {creation? : Option (Outcome η)}
    {result : Result η} (before : s.calls[c]? = some p) (calls : t.calls = s.calls.set c q)
    (undecided : p.verdict? = none) (verdict : q.verdict? = some result)
    (acts : PlainMap.call s.entries r creation? = some (t.entries, result)) :
    Settles s t (some ⟨c, r, creation?⟩) := by
  refine .decided _ result ?_ acts fun i => ?_
  · rw [State.verdict_of_call before, undecided]
  · rw [State.verdict_set before calls, verdict]

/-- A step of a call that decides nothing. -/
lemma Settles.move {c : Nat} {p q : Phase η} (before : s.calls[c]? = some p)
    (calls : t.calls = s.calls.set c q) (verdict : q.verdict? = p.verdict?)
    (entries : t.entries = s.entries) : Settles s t none :=
  .undecided entries (State.verdict_set_of_eq before calls verdict)

end

/-- Taking out the entry of a key, when there is none, changes nothing. -/
lemma State.filter_of_entry?_eq_none {s : State η} {key : CacheKey} (h : s.entry? key = none) :
    s.entries.filter (fun e => !e.key.same key) = s.entries := by
  rw [List.filter_eq_self]
  intro e he
  rw [entry?_eq_none_iff.mp h e he]
  rfl

lemma State.entries_store_of_absent {s : State η} {key : CacheKey} (h : s.entry? key = none)
    {handle : η} : (s.store ⟨key, handle⟩).entries = s.entries ++ [⟨key, handle⟩] := by
  simp [store, h]

lemma settles_getOrCreate (s : State η) (key : CacheKey) :
    Settles s (s.start (.getOrCreate key)) (s.decision? (.start (.getOrCreate key))) := by
  rw [State.decision?, State.start]
  cases hkey : key.isHashable with
  | false =>
    have hatOnce : s.decidesAtOnce (.getOrCreate key) = true := by
      simp [State.decidesAtOnce, hkey]
    rw [if_pos hatOnce, if_neg Bool.false_ne_true]
    exact .join rfl rfl (PlainMap.getOrCreate_unhashable hkey)
  | true =>
    rw [if_pos rfl, State.startCreation]
    cases hentry : s.entry? key with
    | some e =>
      have hatOnce : s.decidesAtOnce (.getOrCreate key) = true := by
        simp [State.decidesAtOnce, hentry]
      rw [if_pos hatOnce]
      exact .join rfl rfl ((PlainMap.getOrCreate_cached hkey hentry).mpr ⟨rfl, rfl, rfl⟩)
    | none =>
      have hatOnce : ¬ s.decidesAtOnce (.getOrCreate key) = true := by
        simp [State.decidesAtOnce, hkey, hentry]
      rw [if_neg hatOnce]
      obtain ⟨hcalls, hentries, -⟩ := register_frame s key
      refine .undecided hentries (funext fun i => ?_)
      rw [State.verdict_append (congrArg (· ++ [_]) hcalls)]
      split_ifs with hi
      · rw [hi, State.verdict_length]
        rfl
      · rfl

lemma settles_start (s : State η) (r : Request) :
    Settles s (s.start r) (s.decision? (.start r)) := by
  cases r with
  | getOrCreate key => exact settles_getOrCreate s key
  | get key =>
    rw [State.start]
    split_ifs with hkey
    · exact .join rfl rfl (by rw [PlainMap.call, if_pos hkey]; rfl)
    · exact .join rfl rfl (by rw [PlainMap.call, if_neg hkey]; rfl)
  | contains key =>
    rw [State.start]
    split_ifs with hkey
    · exact .join rfl rfl (by rw [PlainMap.call, if_pos hkey]; rfl)
    · exact .join rfl rfl (by rw [PlainMap.call, if_neg hkey]; rfl)
  | invalidate key =>
    rw [State.start]
    split_ifs with hkey
    · rw [State.startInvalidation]
      cases hentry : s.entry? key with
      | some e =>
        refine .join rfl rfl ?_
        have hcached : PlainMap.cached? s.entries key = some e := hentry
        rw [PlainMap.call, PlainMap.invalidate, if_pos hkey, hcached]
        rfl
      | none =>
        refine .join rfl rfl ?_
        have hcached : PlainMap.cached? s.entries key = none := hentry
        rw [PlainMap.call, PlainMap.invalidate, if_pos hkey, hcached,
          State.filter_of_entry?_eq_none hentry]
        rfl
    · exact .join rfl rfl (by rw [PlainMap.call, PlainMap.invalidate, if_neg hkey]; rfl)
  | invalidateActor actor =>
    rw [State.start, State.startActorInvalidation]
    cases hactor : s.entries.find? fun e => e.key.actor?.isNone with
    | some e => exact .join rfl rfl (by rw [PlainMap.call, PlainMap.invalidateActor, hactor]; rfl)
    | none =>
      refine .join rfl rfl ?_
      rw [PlainMap.call, PlainMap.invalidateActor, hactor, List.countP_eq_length_filter]
      rfl
  | clear => exact .join rfl rfl rfl

lemma settles_advance [Closable η] {s t : State η} {call : Nat} (h : s.advance call = some t)
    (hashable : ∀ {i key lock}, s.registered i = some (key, lock) → key.isHashable = true)
    (absent : ∀ {i key}, s.missing i = some key → s.entry? key = none) :
    Settles s t (s.decision? (.advance call)) := by
  obtain ⟨p, q, u, hp, hgoes, rfl⟩ := goesOn_of_advance h
  simp only [State.decision?, hp]
  cases hgoes with
  | hit cached =>
    dsimp only
    rw [cached, Option.isSome_some, if_pos rfl]
    exact .decide hp rfl rfl rfl
      ((PlainMap.getOrCreate_cached (hashable (State.registered_of_call hp)) cached).mpr
        ⟨rfl, rfl, rfl⟩)
  | miss habsent =>
    dsimp only
    rw [habsent]
    exact .move hp rfl rfl rfl
  | @store key lock handle =>
    have habsent := absent (State.missing_of_call hp)
    refine .decide hp rfl rfl rfl
      ((PlainMap.getOrCreate_absent (hashable (State.registered_of_call hp)) habsent).mpr (.inl ?_))
    exact ⟨handle, rfl, State.entries_store_of_absent habsent, rfl⟩
  | @release e rest why =>
    obtain ⟨hcalls, hentries, -⟩ := release_frame s e
    refine .move (q := .releasing rest why) hp ?_ rfl hentries
    rw [← hcalls]
    rfl
  | _ => exact .move hp rfl rfl rfl

lemma settles_finish {s t : State η} {call : Nat} {outcome : Outcome η}
    (h : s.finish call outcome = some t)
    (hashable : ∀ {i key lock}, s.registered i = some (key, lock) → key.isHashable = true)
    (absent : ∀ {i key}, s.missing i = some key → s.entry? key = none) :
    Settles s t (s.decision? (.finish call outcome)) := by
  obtain ⟨p, q, hp, hends, rfl⟩ := ends_of_finish h
  simp only [State.decision?, hp]
  have hraises {key : CacheKey} {lock : Nat} (hkey : s.calls[call]? = some (.creating key lock))
      (f : Fault) : PlainMap.call s.entries (.getOrCreate key) (some (.error f)) =
        some (s.entries, .raised (f.raised key)) :=
    (PlainMap.getOrCreate_absent (hashable (State.registered_of_call hkey))
      (absent (State.missing_of_call hkey))).mpr (.inr ⟨f, rfl, rfl, rfl⟩)
  cases hends with
  | returned => exact .move hp rfl rfl rfl
  | failed _ => exact .decide hp rfl rfl rfl (hraises hp _)
  | interrupted _ => exact .decide hp rfl rfl rfl (hraises hp _)

/-- What a run does to the entries and to the decided calls: the calls that it decides, made one at
a time on a plain map, give the entries after it and the results. -/
structure Explains (s t : State η) (ds : List (Decision η)) (results : List (Nat × Result η)) :
    Prop where
  plain : PlainMap.run s.entries ds = some (t.entries, results)
  decided : ∀ {i r}, t.verdict i = some r ↔ s.verdict i = some r ∨ (i, r) ∈ results
  undecided : ∀ {i r}, (i, r) ∈ results → s.verdict i = none
  once : (ds.map (·.call)).Nodup

section
variable {s mid t : State η} {ds : List (Decision η)} {results : List (Nat × Result η)}

lemma Explains.exists_result (h : Explains s t ds results) {d : Decision η} (hd : d ∈ ds) :
    ∃ r, (d.call, r) ∈ results ∧ t.verdict d.call = some r := by
  have hmem : d.call ∈ results.map (·.1) := by
    rw [PlainMap.calls_of_run h.plain]
    exact List.mem_map_of_mem hd
  obtain ⟨⟨i, r⟩, hr, rfl⟩ := List.mem_map.mp hmem
  exact ⟨r, hr, h.decided.mpr (.inr hr)⟩

/-- A step that decides nothing, before what is explained. -/
lemma Explains.undecided_step (h : Explains mid t ds results) (entries : mid.entries = s.entries)
    (verdicts : mid.verdict = s.verdict) : Explains s t ds results where
  plain := entries ▸ h.plain
  decided := by
    rw [← verdicts]
    exact h.decided
  undecided := by
    rw [← verdicts]
    exact h.undecided
  once := h.once

/-- A step that decides a call, before what is explained. -/
lemma Explains.decided_step (h : Explains mid t ds results) {d : Decision η} {r : Result η}
    (undecided : s.verdict d.call = none)
    (acts : PlainMap.call s.entries d.request d.creation? = some (mid.entries, r))
    (verdicts : ∀ i, mid.verdict i = if i = d.call then some r else s.verdict i) :
    Explains s t (d :: ds) ((d.call, r) :: results) := by
  have hself : mid.verdict d.call = some r := by rw [verdicts, if_pos rfl]
  have hlater : d.call ∉ ds.map (·.call) := by
    rw [← PlainMap.calls_of_run h.plain]
    intro hmem
    obtain ⟨⟨i, r'⟩, hmem, hi⟩ := List.mem_map.mp hmem
    obtain rfl : i = d.call := hi
    have hnone := h.undecided hmem
    rw [hself] at hnone
    cases hnone
  refine ⟨?_, ?_, ?_, List.nodup_cons.mpr ⟨hlater, h.once⟩⟩
  · exact PlainMap.run_cons.mpr ⟨mid.entries, r, results, acts, h.plain, rfl⟩
  · intro i r'
    rw [h.decided, verdicts, List.mem_cons, Prod.mk.injEq, ← or_assoc]
    refine or_congr_left ?_
    split_ifs with hi
    · subst hi
      simp [undecided, eq_comm]
    · simp [hi]
  · intro i r' hmem
    rcases List.mem_cons.mp hmem with heq | hmem
    · cases heq
      exact undecided
    · have hnone := h.undecided hmem
      rw [verdicts] at hnone
      split_ifs at hnone
      exact hnone

/-- A call that was started and done by a run has its result from there. -/
lemma Explains.mem_of_result? (h : Explains s t ds results) {i : Nat} {r : Result η}
    (hi : s.calls.length ≤ i) (hr : t.result? i = some r) : (i, r) ∈ results := by
  rcases h.decided.mp (State.verdict_of_result? hr) with hbefore | hresult
  · rw [State.verdict_eq_none_of_le hi] at hbefore
    cases hbefore
  · exact hresult

lemma Explains.exists_decision (h : Explains s t ds results) {i : Nat} {r : Result η}
    (hi : s.calls.length ≤ i) (hr : t.result? i = some r) : ∃ d ∈ ds, d.call = i := by
  have hmem : i ∈ ds.map (·.call) := by
    rw [← PlainMap.calls_of_run h.plain]
    exact List.mem_map_of_mem (h.mem_of_result? hi hr)
  exact List.mem_map.mp hmem

end

variable [Closable η] {s t : State η}

lemma State.decisions_append {as bs : List (Action η)} (has : s.performAll as = some t) :
    s.decisions (as ++ bs) = s.decisions as ++ t.decisions bs := by
  induction as generalizing s with
  | nil =>
    cases has
    rfl
  | cons a as ih =>
    obtain ⟨mid, hstep, has⟩ := performAll_cons.mp has
    rw [List.cons_append, decisions, decisions, hstep, List.append_assoc, ← ih has]

theorem Reachable.settles (h : Reachable s) {a : Action η} (hstep : s.perform a = some t) :
    Settles s t (s.decision? a) := by
  cases a with
  | start r =>
    cases hstep
    exact settles_start s r
  | advance call => exact settles_advance hstep h.hashable h.entry?_of_missing
  | finish call outcome => exact settles_finish hstep h.hashable h.entry?_of_missing

theorem Reachable.explains (h : Reachable s) {as : List (Action η)}
    (has : s.performAll as = some t) : ∃ results, Explains s t (s.decisions as) results := by
  induction as generalizing s with
  | nil =>
    cases has
    exact ⟨[], rfl, by simp, nofun, .nil⟩
  | cons a as ih =>
    obtain ⟨mid, hstep, has⟩ := State.performAll_cons.mp has
    obtain ⟨results, hrun⟩ := ih (.step a h hstep) has
    rw [State.decisions, hstep]
    have hsettles := h.settles hstep
    generalize s.decision? a = d? at hsettles ⊢
    cases hsettles with
    | undecided entries verdicts => exact ⟨results, hrun.undecided_step entries verdicts⟩
    | decided d r undecided acts verdicts =>
      exact ⟨(d.call, r) :: results, hrun.decided_step undecided acts verdicts⟩

end TaggedSuite.Session.Cache
