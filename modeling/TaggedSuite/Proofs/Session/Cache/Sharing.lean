import TaggedSuite.Proofs.Session.Cache.Plain

/-!
# One key of a plain map

Calls that get or create the handle of a key, where nothing is cached at first, make attempts one
after the other until one of them succeeds. Every call before that makes an attempt that fails, and
every call after it gets the handle that was created.
-/
namespace TaggedSuite

namespace CacheKey

variable {a b : CacheKey}

lemma isHashable_of_same (h : a.same b = true) : a.isHashable = b.isHashable := by
  cases a <;> cases b <;> first | rfl | cases h

lemma actor?_of_same (h : a.same b = true) : a.actor? = b.actor? := by
  cases a <;> cases b <;> first | rfl | cases h | rw [same_session.mp h]

/-- Keys with the same place are told apart from others in the same way. -/
lemma same_congr_right (h : a.same b = true) (c : CacheKey) : c.same a = c.same b :=
  Bool.eq_iff_iff.mpr ⟨fun hca => same_trans hca h, fun hcb => same_trans hcb (same_comm b a ▸ h)⟩

end CacheKey

namespace Session.Cache

variable {η : Type}

/-- Whether a request gets or creates the handle of the key. -/
def Request.gets (key : CacheKey) : Request → Bool
  | .getOrCreate k => k.same key
  | _ => false

/-- Whether a request takes out what is cached under the key. -/
def Request.evicts (key : CacheKey) : Request → Bool
  | .invalidate k => k.same key
  | .invalidateActor actor => key.actor? == some actor
  | .clear => true
  | _ => false

/-- Whether a call has ended by raising. -/
def Result.isRaised : Result η → Bool
  | .raised _ => true
  | _ => false

lemma Request.eq_getOrCreate_of_gets {r : Request} {key : CacheKey} (h : r.gets key = true) :
    ∃ k, r = .getOrCreate k ∧ k.same key = true := by
  cases r with
  | getOrCreate k => exact ⟨k, rfl, h⟩
  | _ => cases h

namespace PlainMap

variable {m m' : PlainMap η} {key k : CacheKey} {r : Request} {result : Result η}
  {creation? : Option (Outcome η)}

lemma cached?_of_same (h : k.same key = true) (m : PlainMap η) : m.cached? k = m.cached? key := by
  unfold cached?
  simp only [CacheKey.same_congr_right h]

/-- Taking out entries that are not under the key. -/
lemma cached?_filter {p : Entry η → Bool} (h : ∀ e, e.key.same key = true → p e = true) :
    cached? (m.filter p) key = m.cached? key := by
  rw [cached?, List.find?_filter]
  refine congrArg (List.find? · m) (funext fun e => ?_)
  cases hsame : e.key.same key with
  | false => exact decide_eq_false fun h => nomatch h.2
  | true => exact decide_eq_true ⟨h e hsame, rfl⟩

/-- Putting in an entry under another key. -/
lemma cached?_append (h : k.same key = false) {handle : η} :
    cached? (m ++ [⟨k, handle⟩]) key = m.cached? key := by
  simp [cached?, h]

lemma getOrCreate_map (h : m.getOrCreate key creation? = some (m', result)) :
    m' = m ∨ ∃ handle, m' = m ++ [⟨key, handle⟩] := by
  unfold getOrCreate at h
  split_ifs at h
  · split at h
    · exact .inl (by cases h; rfl)
    · exact .inr ⟨_, by cases h; rfl⟩
    · exact .inl (by cases h; rfl)
    · cases h
  · exact .inl (by cases h; rfl)

/-- A call that neither creates nor takes out the entry of a key leaves it alone. -/
lemma cached?_call (h : m.call r creation? = some (m', result)) (hgets : r.gets key = false)
    (hevicts : r.evicts key = false) : m'.cached? key = m.cached? key := by
  cases r with
  | getOrCreate k =>
    rcases getOrCreate_map h with rfl | ⟨handle, rfl⟩
    · rfl
    · exact cached?_append hgets
  | get k | contains k =>
    cases creation? <;> cases h
    rfl
  | invalidate k =>
    cases creation? with
    | some _ => cases h
    | none =>
      rw [call, invalidate] at h
      split_ifs at h
      · cases h
        refine cached?_filter fun e he => ?_
        rw [CacheKey.same_comm, CacheKey.same_congr_right he]
        exact congrArg (! ·) hevicts
      · cases h
        rfl
  | invalidateActor actor =>
    cases creation? with
    | some _ => cases h
    | none =>
      rw [call, invalidateActor] at h
      split at h
      · cases h
        rfl
      · cases h
        refine cached?_filter fun e he => ?_
        rw [CacheKey.actor?_of_same he]
        exact congrArg (! ·) hevicts
  | clear => cases hevicts

section
variable (hkey : key.isHashable = true) (h : m.call r creation? = some (m', result))
  (hgets : r.gets key = true)
include hkey h hgets

lemma call_gets_cached {e : Entry η} (hcached : m.cached? key = some e) :
    creation? = none ∧ m' = m ∧ result = .handle e.handle := by
  obtain ⟨k, rfl, hsame⟩ := Request.eq_getOrCreate_of_gets hgets
  have hk : k.isHashable = true := by rw [CacheKey.isHashable_of_same hsame, hkey]
  exact (getOrCreate_cached hk (by rw [cached?_of_same hsame, hcached])).mp h

lemma call_gets_absent (hcached : m.cached? key = none) :
    (∃ e : Entry η, creation? = some (.ok e.handle) ∧ m'.cached? key = some e ∧
      result = .handle e.handle) ∨
      ∃ f k, creation? = some (.error f) ∧ m' = m ∧ result = .raised (f.raised k) := by
  obtain ⟨k, rfl, hsame⟩ := Request.eq_getOrCreate_of_gets hgets
  have hk : k.isHashable = true := by rw [CacheKey.isHashable_of_same hsame, hkey]
  rcases (getOrCreate_absent hk (by rw [cached?_of_same hsame, hcached])).mp h with
    ⟨handle, hcreation, rfl, hresult⟩ | ⟨f, hcreation, hm, hresult⟩
  · refine .inl ⟨⟨k, handle⟩, hcreation, ?_, hresult⟩
    rw [cached?, List.find?_append, show m.find? _ = none from hcached]
    simp [hsame]
  · exact .inr ⟨f, k, hcreation, hm, hresult⟩

end

end PlainMap

/-- How the callers of a key that is not cached come out, in the order in which they are decided.
Each makes an attempt of its own until one succeeds, and those after that one get its handle. -/
inductive Shared (verdict : Nat → Option (Result η)) : List (Decision η) → Prop where
  | nil : Shared verdict []
  | failed {d : Decision η} {ds : List (Decision η)} {f : Fault} {r : Raised}
      (creation : d.creation? = some (.error f)) (own : verdict d.call = some (.raised r))
      (others : Shared verdict ds) : Shared verdict (d :: ds)
  | created {d : Decision η} {ds : List (Decision η)} {h : η}
      (creation : d.creation? = some (.ok h)) (own : verdict d.call = some (.handle h))
      (others : ∀ e ∈ ds, e.creation? = none ∧ verdict e.call = some (.handle h)) :
      Shared verdict (d :: ds)

section
variable {m m' : PlainMap η} {key : CacheKey} {ds : List (Decision η)}
  {results : List (Nat × Result η)} {verdict : Nat → Option (Result η)}

/-- The callers of a key that is cached make no attempts. -/
lemma PlainMap.run_cached (h : m.run ds = some (m', results)) (hkey : key.isHashable = true)
    (kept : ∀ d ∈ ds, d.request.evicts key = false)
    (reported : ∀ {i r}, (i, r) ∈ results → verdict i = some r) {e : Entry η}
    (hcached : m.cached? key = some e) :
    ∀ d ∈ ds.filter (·.request.gets key),
      d.creation? = none ∧ verdict d.call = some (.handle e.handle) := by
  induction ds generalizing m results with
  | nil => exact List.forall_mem_nil _
  | cons d ds ih =>
    obtain ⟨mid, r, rest, hcall, hrest, rfl⟩ := run_cons.mp h
    have hlater := ih hrest (fun d hd => kept d (List.mem_cons_of_mem _ hd))
      fun hi => reported (List.mem_cons_of_mem _ hi)
    cases hgets : d.request.gets key with
    | true =>
      obtain ⟨hcreation, rfl, rfl⟩ := call_gets_cached hkey hcall hgets hcached
      rw [List.filter_cons, if_pos hgets]
      exact List.forall_mem_cons.mpr
        ⟨⟨hcreation, reported List.mem_cons_self⟩, hlater hcached⟩
    | false =>
      rw [List.filter_cons, if_neg (by rw [hgets]; exact Bool.false_ne_true)]
      exact hlater (by rw [cached?_call hcall hgets (kept d List.mem_cons_self), hcached])

lemma PlainMap.run_absent (h : m.run ds = some (m', results)) (hkey : key.isHashable = true)
    (kept : ∀ d ∈ ds, d.request.evicts key = false)
    (reported : ∀ {i r}, (i, r) ∈ results → verdict i = some r)
    (hcached : m.cached? key = none) : Shared verdict (ds.filter (·.request.gets key)) := by
  induction ds generalizing m results with
  | nil => exact .nil
  | cons d ds ih =>
    obtain ⟨mid, r, rest, hcall, hrest, rfl⟩ := run_cons.mp h
    have hkept : ∀ d ∈ ds, d.request.evicts key = false := fun d hd =>
      kept d (List.mem_cons_of_mem _ hd)
    have hreported {i r'} (hi : (i, r') ∈ rest) : verdict i = some r' :=
      reported (List.mem_cons_of_mem _ hi)
    cases hgets : d.request.gets key with
    | true =>
      rw [List.filter_cons, if_pos hgets]
      rcases call_gets_absent hkey hcall hgets hcached with
        ⟨e, hcreation, hmid, rfl⟩ | ⟨f, k, hcreation, rfl, rfl⟩
      · exact .created hcreation (reported List.mem_cons_self)
          (run_cached hrest hkey hkept hreported hmid)
      · exact .failed hcreation (reported List.mem_cons_self) (ih hrest hkept hreported hcached)
    | false =>
      rw [List.filter_cons, if_neg (by rw [hgets]; exact Bool.false_ne_true)]
      exact ih hrest hkept hreported
        (by rw [cached?_call hcall hgets (kept d List.mem_cons_self), hcached])

end

/-- The first `f` attempts fail, and the one after them succeeds if it is made. -/
structure FailsFirst (f : Nat) (attempts : List (Outcome η)) : Prop where
  failing : ∀ {j o}, j < f → attempts[j]? = some o → o.isOk = false
  succeeding : ∀ {o}, attempts[f]? = some o → o.isOk = true

/-- What the callers come to when the first `f` attempts fail: how many attempts there are, how many
callers raise, and what the others get. -/
structure Counts (verdict : Nat → Option (Result η)) (f : Nat) (calls : List Nat)
    (attempts : List (Outcome η)) : Prop where
  made : attempts.length = min calls.length (f + 1)
  raised : calls.countP (fun i => (verdict i).any Result.isRaised) = min calls.length f
  others : ∀ i ∈ calls, (verdict i).any Result.isRaised = true ∨
    ∃ h, attempts[f]? = some (.ok h) ∧ verdict i = some (.handle h)

lemma FailsFirst.tail {f : Nat} {o : Outcome η} {attempts : List (Outcome η)}
    (h : FailsFirst (f + 1) (o :: attempts)) : FailsFirst f attempts :=
  ⟨fun hj ho => h.failing (Nat.succ_lt_succ hj) ho, fun ho => h.succeeding ho⟩

lemma Shared.counts {verdict : Nat → Option (Result η)} {ds : List (Decision η)}
    (h : Shared verdict ds) {f : Nat} (hf : FailsFirst f (ds.filterMap (·.creation?))) :
    Counts verdict f (ds.map (·.call)) (ds.filterMap (·.creation?)) := by
  induction h generalizing f with
  | nil => exact ⟨rfl, rfl, nofun⟩
  | @failed d ds fault r creation own _ ih =>
    rw [List.filterMap_cons_some creation] at hf ⊢
    cases f with
    | zero => cases hf.succeeding rfl
    | succ f =>
      have hrest := ih hf.tail
      refine ⟨?_, ?_, ?_⟩
      · rw [List.length_cons, hrest.made, List.map_cons, List.length_cons]
        omega
      · rw [List.map_cons, List.countP_cons_of_pos (by rw [own]; rfl), hrest.raised,
          List.length_cons]
        omega
      · exact List.forall_mem_cons.mpr ⟨.inl (by rw [own]; rfl), hrest.others⟩
  | @created d ds handle creation own others =>
    have hnone : ds.filterMap (·.creation?) = [] :=
      List.filterMap_eq_nil_iff.mpr fun e he => (others e he).1
    rw [List.filterMap_cons_some creation, hnone] at hf ⊢
    cases f with
    | succ f => cases hf.failing (Nat.succ_pos f) rfl
    | zero =>
      have hgot : ∀ i ∈ (d :: ds).map (·.call), verdict i = some (.handle handle) := by
        rw [List.forall_mem_map, List.forall_mem_cons]
        exact ⟨own, fun e he => (others e he).2⟩
      refine ⟨?_, ?_, fun i hi => .inr ⟨handle, rfl, hgot i hi⟩⟩
      · simp
      · rw [Nat.min_zero, List.countP_eq_zero]
        intro i hi
        rw [hgot i hi]
        exact Bool.false_ne_true

lemma Counts.transfer {verdict result : Nat → Option (Result η)} {f : Nat}
    {calls calls' : List Nat} {outcomes : List (Outcome η)} (h : Counts verdict f calls outcomes)
    (perm : calls.Perm calls') (hresult : ∀ i ∈ calls', result i = verdict i) :
    Counts result f calls' outcomes := by
  refine ⟨?_, ?_, ?_⟩
  · rw [h.made, perm.length_eq]
  · rw [← perm.length_eq, ← h.raised, perm.countP_eq]
    exact List.countP_congr fun i hi => by rw [hresult i hi]
  · intro i hi
    rw [hresult i hi]
    exact h.others i (perm.mem_iff.mpr hi)

end Session.Cache

end TaggedSuite
