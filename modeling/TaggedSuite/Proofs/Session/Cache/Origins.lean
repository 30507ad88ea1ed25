import Mathlib.Data.List.Induction
import TaggedSuite.Proofs.Session.Cache.Decisions

/-!
# Where decisions come from

A decided call was started by the run with the request that it is decided for, and the creation that
it is decided with is the one that ended for it in the run. So the calls of the plain map are those
of the run, and every creation of the run is accounted for.
-/
namespace TaggedSuite.Session.Cache

variable {η : Type}

/-- The request that a step makes. -/
def Action.request? : Action η → Option Request
  | .start r => some r
  | _ => none

/-- How the creation of one of the calls ends with a step. -/
def Action.ending? (calls : Nat → Bool) : Action η → Option (Outcome η)
  | .finish call outcome => if calls call then some outcome else none
  | _ => none

/-- The requests of the calls that a run starts, in order. -/
def requests (as : List (Action η)) : List Request := as.filterMap Action.request?

/-- How the creations of the given calls end in a run, in order. -/
def endings (calls : Nat → Bool) (as : List (Action η)) : List (Outcome η) :=
  as.filterMap (Action.ending? calls)

lemma request?_of_call? {a : Action η} {call : Nat} (h : a.call? = some call) :
    a.request? = none := by
  cases a with
  | start r => cases h
  | advance | finish => rfl

/-- The requests that the calls of a state were started with. -/
structure Asked (s : State η) (rs : List Request) : Prop where
  length : s.calls.length = rs.length
  registered : ∀ {i key lock}, s.registered i = some (key, lock) →
    rs[i]? = some (.getOrCreate key)

section
variable {s t : State η} {rs : List Request} {a : Action η} {d : Decision η}

lemma Asked.append (h : Asked s rs) {r : Request} {p : Phase η} (calls : t.calls = s.calls ++ [p])
    (asked : ∀ {key lock}, p.registration? = some (key, lock) → r = .getOrCreate key) :
    Asked t (rs ++ [r]) := by
  refine ⟨by rw [calls, List.length_append, h.length, List.length_append]; rfl, ?_⟩
  intro i key lock hi
  rw [State.registered_append calls] at hi
  split_ifs at hi with hlength
  · rw [hlength, h.length, List.getElem?_concat_length, asked hi]
  · have hold := h.registered hi
    obtain ⟨hlt, -⟩ := List.getElem?_eq_some_iff.mp hold
    rw [List.getElem?_append_left hlt, hold]

lemma Asked.set (h : Asked s rs) {c : Nat} {p q : Phase η} (hc : s.calls[c]? = some p)
    (calls : t.calls = s.calls.set c q)
    (kept : q.registration? = none ∨ q.registration? = p.registration?) : Asked t rs := by
  refine ⟨by rw [calls, List.length_set, h.length], ?_⟩
  intro i key lock hi
  rw [State.registered_set hc calls] at hi
  split_ifs at hi with hic
  · rcases kept with hnone | hsame
    · rw [hnone] at hi
      cases hi
    · rw [hsame, ← State.registered_of_call hc, ← hic] at hi
      exact h.registered hi
  · exact h.registered hi

/-- A decision is about the call that starts, or about a registered call that goes on. -/
lemma decision?_eq_some (h : s.decision? a = some d) :
    (∃ r, a = .start r ∧ d = ⟨s.calls.length, r, none⟩) ∨
      ∃ key lock, a.request? = none ∧ s.registered d.call = some (key, lock) ∧
        d.request = .getOrCreate key := by
  cases a with
  | start r =>
    rw [State.decision?] at h
    split_ifs at h
    exact .inl ⟨r, rfl, (Option.some.inj h).symm⟩
  | advance call =>
    refine .inr ?_
    unfold State.decision? at h
    dsimp only at h
    split at h
    · next key lock hcall =>
      split_ifs at h
      cases h
      exact ⟨key, lock, rfl, State.registered_of_call hcall, rfl⟩
    · next key lock _ hcall =>
      cases h
      exact ⟨key, lock, rfl, State.registered_of_call hcall, rfl⟩
    · cases h
  | finish call outcome =>
    refine .inr ?_
    unfold State.decision? at h
    dsimp only at h
    split at h
    · next key lock _ hcall =>
      cases h
      exact ⟨key, lock, rfl, State.registered_of_call hcall, rfl⟩
    · cases h

lemma Asked.decision (h : Asked s rs) (hd : s.decision? a = some d) :
    (rs ++ a.request?.toList)[d.call]? = some d.request := by
  rcases decision?_eq_some hd with ⟨r, rfl, rfl⟩ | ⟨key, lock, hrequest, hreg, hd⟩
  · dsimp only
    rw [h.length]
    exact List.getElem?_concat_length
  · rw [hrequest, Option.toList_none, List.append_nil, h.registered hreg, hd]

lemma requests_snoc (as : List (Action η)) (a : Action η) :
    requests (as ++ [a]) = requests as ++ a.request?.toList := by
  rw [requests, List.filterMap_append]
  cases h : a.request? <;> simp [requests, h]

variable [Closable η]

lemma Asked.step (h : Asked s rs) (hstep : s.perform a = some t) :
    Asked t (rs ++ a.request?.toList) := by
  cases change_of_perform hstep with
  | join r p free calls _ _ => exact h.append calls (by rw [free]; exact nofun)
  | register key _ calls _ _ _ _ =>
    refine h.append calls ?_
    intro key' lock hkey
    cases hkey
    rfl
  | move a call on p q before calls registered _ _ _ _ =>
    rw [request?_of_call? on, Option.toList_none, List.append_nil]
    exact h.set before calls (.inr registered)
  | acquire call key lock before _ calls _ _ _ _ =>
    exact (List.append_nil rs).symm ▸ h.set before calls (.inr rfl)
  | store call key lock _ before calls _ _ =>
    exact (List.append_nil rs).symm ▸ h.set before calls (.inr rfl)
  | unlock call key lock r before calls _ _ _ _ =>
    exact (List.append_nil rs).symm ▸ h.set before calls (.inr rfl)
  | leave call key lock r before calls _ _ _ _ =>
    exact (List.append_nil rs).symm ▸ h.set before calls (.inl rfl)

lemma State.decisions_snoc {as : List (Action η)} (has : s.performAll as = some t)
    (hstep : (t.perform a).isSome) :
    s.decisions (as ++ [a]) = s.decisions as ++ (t.decision? a).toList := by
  obtain ⟨u, hu⟩ := Option.isSome_iff_exists.mp hstep
  rw [decisions_append has, decisions, hu]
  simp [decisions]

theorem asked_of_run {as : List (Action η)} (has : State.empty.performAll as = some t) :
    Asked t (requests as) := by
  induction as using List.reverseRecOn generalizing t with
  | nil =>
    cases has
    exact ⟨rfl, nofun⟩
  | append_singleton as a ih =>
    obtain ⟨s, has, hstep⟩ := State.performAll_snoc.mp has
    rw [requests_snoc]
    exact (ih has).step hstep

/-- A decided call was started with the request that it is decided for. -/
theorem request_of_decision {as : List (Action η)} (has : State.empty.performAll as = some t)
    (hd : d ∈ State.empty.decisions as) : (requests as)[d.call]? = some d.request := by
  induction as using List.reverseRecOn generalizing t with
  | nil => cases hd
  | append_singleton as a ih =>
    obtain ⟨s, has, hstep⟩ := State.performAll_snoc.mp has
    rw [State.decisions_snoc has (by rw [hstep]; rfl), List.mem_append, Option.mem_toList] at hd
    rw [requests_snoc]
    rcases hd with hd | hd
    · have hold := ih has hd
      obtain ⟨hlt, -⟩ := List.getElem?_eq_some_iff.mp hold
      rw [List.getElem?_append_left hlt, hold]
    · exact (asked_of_run has).decision hd

end

/-- The outcome of a creation that has returned a handle, which is not stored yet. -/
def Phase.unstored? : Phase η → Option (Outcome η)
  | created _ _ h => some (.ok h)
  | _ => none

/-- The outcome of a call's creation that has returned a handle, which is not stored yet. -/
def State.unstored (s : State η) (call : Nat) : Option (Outcome η) :=
  view Phase.unstored? s.calls call

/-- How the creation of one of the calls ended that a decision is about. -/
def Decision.creationOf? (calls : Nat → Bool) (d : Decision η) : Option (Outcome η) :=
  if calls d.call then d.creation? else none

lemma creations_of_call {ds : List (Decision η)} (once : (ds.map (·.call)).Nodup)
    {d : Decision η} (hd : d ∈ ds) :
    ds.filterMap (Decision.creationOf? (· == d.call)) = d.creation?.toList := by
  induction ds with
  | nil => cases hd
  | cons e ds ih =>
    obtain ⟨hnot, honce⟩ := List.nodup_cons.mp once
    rcases List.mem_cons.mp hd with rfl | hd
    · have hrest : ds.filterMap (Decision.creationOf? (· == d.call)) = [] := by
        refine List.filterMap_eq_nil_iff.mpr fun e he => ?_
        rw [Decision.creationOf?, if_neg]
        intro heq
        exact hnot (List.mem_map.mpr ⟨e, he, eq_of_beq heq⟩)
      have hself : d.creationOf? (· == d.call) = d.creation? := by simp [Decision.creationOf?]
      rw [List.filterMap_cons, hself, hrest]
      cases d.creation? <;> rfl
    · have hne : ¬ e.call = d.call := by
        intro heq
        exact hnot (List.mem_map.mpr ⟨d, hd, heq.symm⟩)
      have hother : e.creationOf? (· == d.call) = none := by simp [Decision.creationOf?, hne]
      rw [List.filterMap_cons_none hother]
      exact ih honce hd

/-- Of the given calls, at most one is past finding nothing under its key. -/
def Alone (calls : Nat → Bool) (s : State η) : Prop :=
  ∀ {i j key key'}, calls i = true → calls j = true → s.missing i = some key →
    s.missing j = some key' → i = j

/-- What a step does with creations: it ends one, or stores what one has returned, or neither. -/
inductive CreationStep (s t : State η) : Action η → Option (Decision η) → Prop where
  | other {a : Action η} {d? : Option (Decision η)} (ending : ∀ calls, a.ending? calls = none)
      (creation : ∀ d ∈ d?, d.creation? = none) (unstored : t.unstored = s.unstored) :
      CreationStep s t a d?
  | returned {call lock : Nat} {key : CacheKey} {h : η}
      (before : s.calls[call]? = some (.creating key lock))
      (unstored : ∀ i, t.unstored i = if i = call then some (.ok h) else s.unstored i) :
      CreationStep s t (.finish call (.ok h)) none
  | failed {call lock : Nat} {key : CacheKey} {f : Fault} {r : Request}
      (before : s.calls[call]? = some (.creating key lock)) (unstored : t.unstored = s.unstored) :
      CreationStep s t (.finish call (.error f)) (some ⟨call, r, some (.error f)⟩)
  | stored {call : Nat} {h : η} {r : Request} (before : s.unstored call = some (.ok h))
      (unstored : ∀ i, t.unstored i = if i = call then none else s.unstored i) :
      CreationStep s t (.advance call) (some ⟨call, r, some (.ok h)⟩)

section
variable {s t : State η} {i : Nat} {p q : Phase η}

lemma State.unstored_set {c : Nat} (hc : s.calls[c]? = some p) (calls : t.calls = s.calls.set c q)
    (i : Nat) : t.unstored i = if i = c then q.unstored? else s.unstored i := by
  rw [unstored, calls, view_set hc]
  rfl

lemma State.unstored_set_of_eq {c : Nat} (hc : s.calls[c]? = some p)
    (calls : t.calls = s.calls.set c q) (h : q.unstored? = p.unstored?) :
    t.unstored = s.unstored := by
  funext i
  rw [unstored, calls, view_set_of_eq hc h]
  rfl

lemma State.unstored_append (calls : t.calls = s.calls ++ [p]) (h : p.unstored? = none) :
    t.unstored = s.unstored := by
  funext i
  rw [unstored, calls, view_append_none h]
  rfl

lemma State.unstored_of_call (h : s.calls[i]? = some p) : s.unstored i = p.unstored? :=
  view_of_call h

lemma State.unstored_eq_none_of_le (h : s.calls.length ≤ i) : s.unstored i = none := by
  simp [unstored, view, h]

lemma State.missing_of_unstored {o : Outcome η} (h : s.unstored i = some o) :
    ∃ key, s.missing i = some key := by
  obtain ⟨p, hp, hunstored⟩ := view_eq_some.mp h
  rw [missing_of_call hp]
  cases p <;> cases hunstored
  exact ⟨_, rfl⟩

lemma State.unstored_of_verdict {r : Result η} (h : s.verdict i = some r) :
    s.unstored i = none := by
  obtain ⟨p, hp, hverdict⟩ := view_eq_some.mp h
  rw [unstored_of_call hp]
  cases p <;> first | rfl | cases hverdict

/-- When the call that had something to store has stored it, nothing is left. -/
lemma Alone.unstored_stored {calls : Nat → Bool} (alone : Alone calls s) {call : Nat}
    {r : Outcome η} (hcall : calls call = true) (before : s.unstored call = some r)
    (unstored : ∀ i, t.unstored i = if i = call then none else s.unstored i) {o : Outcome η} :
    none = some o ↔ ∃ i, calls i = true ∧ t.unstored i = some o := by
  refine iff_of_false nofun ?_
  rintro ⟨i, hi, hunstored⟩
  rw [unstored] at hunstored
  split_ifs at hunstored with hic
  obtain ⟨key, hmissing⟩ := State.missing_of_unstored hunstored
  obtain ⟨key', hmissing'⟩ := State.missing_of_unstored before
  exact hic (alone hi hcall hmissing hmissing')

lemma Phase.unstored?_of_free (h : p.registration? = none) : p.unstored? = none := by
  cases p <;> first | rfl | cases h

variable [Closable η]

theorem creationStep_of_perform {a : Action η} (hstep : s.perform a = some t) :
    CreationStep s t a (s.decision? a) := by
  cases a with
  | start r =>
    have hunstored : t.unstored = s.unstored := by
      cases change_of_perform hstep with
      | join r p free calls _ _ => exact State.unstored_append calls (Phase.unstored?_of_free free)
      | register key _ calls _ _ _ _ => exact State.unstored_append calls rfl
      | move a call on _ _ _ _ _ _ _ _ _ => cases on
    refine .other (fun _ => rfl) ?_ hunstored
    intro d hd
    rw [State.decision?] at hd
    split_ifs at hd
    · cases hd
      rfl
    · cases hd
  | advance call =>
    obtain ⟨p, q, u, hp, hgoes, rfl⟩ := goesOn_of_advance hstep
    have hother (hcalls : u.calls = s.calls) (hq : q.unstored? = p.unstored?)
        (hd : ∀ d ∈ s.decision? (.advance call), d.creation? = none) :
        CreationStep s (u.move call q) (.advance call) (s.decision? (.advance call)) :=
      .other (fun _ => rfl) hd
        (State.unstored_set_of_eq hp (congrArg (·.set call q) hcalls) hq)
    cases hgoes with
    | hit cached =>
      refine hother rfl rfl ?_
      simp [State.decision?, hp, cached]
    | miss absent =>
      refine hother rfl rfl ?_
      simp [State.decision?, hp, absent]
    | @store key lock h =>
      simp only [State.decision?, hp]
      exact .stored (State.unstored_of_call hp)
        (State.unstored_set (q := .unlocking key lock (.handle h)) hp rfl)
    | @release e rest why =>
      refine hother (release_frame s e).1 rfl ?_
      simp [State.decision?, hp]
    | _ =>
      refine hother rfl rfl ?_
      simp [State.decision?, hp]
  | finish call outcome =>
    obtain ⟨p, q, hp, hends, rfl⟩ := ends_of_finish hstep
    simp only [State.decision?, hp]
    cases hends with
    | @returned key lock h =>
      exact .returned hp (State.unstored_set (q := .created key lock h) hp rfl)
    | failed _ => exact .failed hp (State.unstored_set_of_eq hp rfl rfl)
    | interrupted _ => exact .failed hp (State.unstored_set_of_eq hp rfl rfl)

/-- What is known of the creations of some calls after a run: the decisions account for all that
have ended, except for one whose handle is `left` to be stored. -/
structure Accounts (calls : Nat → Bool) (as : List (Action η)) (t : State η)
    (left : Option (Outcome η)) : Prop where
  ended : endings calls as =
    (State.empty.decisions as).filterMap (Decision.creationOf? calls) ++ left.toList
  unstored : ∀ {o}, left = some o ↔ ∃ i, calls i = true ∧ t.unstored i = some o

section
variable {calls : Nat → Bool} {as : List (Action η)} {a : Action η}
  {left left' : Option (Outcome η)}

/-- A step that keeps the balance: what was left and what ends now is stored or left. -/
lemma Accounts.balance (h : Accounts calls as s left) (has : State.empty.performAll as = some s)
    (hstep : s.perform a = some t) (left' : Option (Outcome η))
    (ended : left.toList ++ (a.ending? calls).toList =
      ((s.decision? a).bind (Decision.creationOf? calls)).toList ++ left'.toList)
    (unstored : ∀ {o}, left' = some o ↔ ∃ i, calls i = true ∧ t.unstored i = some o) :
    Accounts calls (as ++ [a]) t left' := by
  refine ⟨?_, unstored⟩
  have hendings : endings calls (as ++ [a]) = endings calls as ++ (a.ending? calls).toList := by
    rw [endings, List.filterMap_append]
    cases ha : a.ending? calls <;> simp [endings, ha]
  have hcreations : (s.decision? a).toList.filterMap (Decision.creationOf? calls) =
      ((s.decision? a).bind (Decision.creationOf? calls)).toList := by
    cases s.decision? a with
    | none => rfl
    | some d => cases hd : d.creationOf? calls <;> simp [hd]
  rw [hendings, h.ended, State.decisions_snoc has (by rw [hstep]; rfl), List.filterMap_append,
    hcreations, List.append_assoc, List.append_assoc, ended]

/-- Nothing is left if nothing that the calls created is still to be stored. -/
lemma Accounts.left_eq_none (h : Accounts calls as s left)
    (stored : ∀ {i}, calls i = true → s.unstored i = none) : left = none := by
  by_contra hsome
  obtain ⟨o, ho⟩ := Option.ne_none_iff_exists'.mp hsome
  obtain ⟨i, hi, hunstored⟩ := h.unstored.mp ho
  rw [stored hi] at hunstored
  cases hunstored

/-- While a creation of one of the calls runs, nothing that they created is left to be stored. -/
lemma Accounts.left_eq_none_of_creating (h : Accounts calls as s left) (alone : Alone calls s)
    {call lock : Nat} {key : CacheKey} (hcall : calls call = true)
    (before : s.calls[call]? = some (.creating key lock)) : left = none := by
  refine h.left_eq_none fun {i} hi => ?_
  by_contra hsome
  obtain ⟨o, ho⟩ := Option.ne_none_iff_exists'.mp hsome
  obtain ⟨key', hmissing⟩ := State.missing_of_unstored ho
  obtain rfl := alone hi hcall hmissing (State.missing_of_call before)
  rw [State.unstored_of_call before] at ho
  cases ho

/-- A call outside is of no account. -/
lemma Accounts.unstored_outside (h : Accounts calls as s left) {call : Nat}
    {now : Option (Outcome η)} (hcall : ¬ calls call = true)
    (unstored : ∀ i, t.unstored i = if i = call then now else s.unstored i) {o : Outcome η} :
    left = some o ↔ ∃ i, calls i = true ∧ t.unstored i = some o := by
  rw [h.unstored]
  refine exists_congr fun i => and_congr_right fun hi => ?_
  rw [unstored, if_neg]
  rintro rfl
  exact hcall hi

/-- A call has something to store, and nothing else is left. -/
lemma Accounts.unstored_returned (h : Accounts calls as s none) {call : Nat} {r : Outcome η}
    (hcall : calls call = true)
    (unstored : ∀ i, t.unstored i = if i = call then some r else s.unstored i) {o : Outcome η} :
    some r = some o ↔ ∃ i, calls i = true ∧ t.unstored i = some o := by
  constructor
  · intro ho
    exact ⟨call, hcall, by rw [unstored, if_pos rfl, ho]⟩
  · rintro ⟨i, hi, hunstored⟩
    rw [unstored] at hunstored
    split_ifs at hunstored
    · exact hunstored
    · exact absurd (h.unstored.mpr ⟨i, hi, hunstored⟩) nofun

lemma Accounts.step (h : Accounts calls as s left) (alone : Alone calls s)
    (has : State.empty.performAll as = some s) (hstep : s.perform a = some t) :
    ∃ left, Accounts calls (as ++ [a]) t left := by
  have hcreation := creationStep_of_perform hstep
  have hbalance := h.balance has hstep
  generalize s.decision? a = d? at hcreation hbalance
  cases hcreation with
  | other ending creation unstored =>
    refine ⟨left, hbalance _ ?_ (unstored ▸ h.unstored)⟩
    have hnone : d?.bind (Decision.creationOf? calls) = none := by
      cases d? with
      | none => rfl
      | some d => simp [Decision.creationOf?, creation d rfl]
    rw [ending, hnone, Option.toList_none, List.append_nil, List.nil_append]
  | @returned call lock key handle before unstored =>
    by_cases hcall : calls call = true
    · obtain rfl := h.left_eq_none_of_creating alone hcall before
      refine ⟨some (.ok handle), hbalance _ ?_ (h.unstored_returned hcall unstored)⟩
      simp [Action.ending?, hcall]
    · refine ⟨left, hbalance _ ?_ (h.unstored_outside hcall unstored)⟩
      simp [Action.ending?, hcall]
  | @failed call lock key f r before unstored =>
    by_cases hcall : calls call = true
    · obtain rfl := h.left_eq_none_of_creating alone hcall before
      refine ⟨none, hbalance _ ?_ (unstored ▸ h.unstored)⟩
      simp [Action.ending?, Decision.creationOf?, hcall]
    · refine ⟨left, hbalance _ ?_ (unstored ▸ h.unstored)⟩
      simp [Action.ending?, Decision.creationOf?, hcall]
  | @stored call handle r before unstored =>
    by_cases hcall : calls call = true
    · obtain rfl := h.unstored.mpr ⟨call, hcall, before⟩
      refine ⟨none, hbalance _ ?_ (alone.unstored_stored hcall before unstored)⟩
      simp [Action.ending?, Decision.creationOf?, hcall]
    · refine ⟨left, hbalance _ ?_ (h.unstored_outside hcall unstored)⟩
      simp [Action.ending?, Decision.creationOf?, hcall]

/-- The decisions of a run account for its creations, in order. -/
theorem accounts_of_run (has : State.empty.performAll as = some t)
    (alone : ∀ {bs s}, bs <+: as → State.empty.performAll bs = some s → Alone calls s) :
    ∃ left, Accounts calls as t left := by
  induction as using List.reverseRecOn generalizing t with
  | nil =>
    cases has
    exact ⟨none, rfl, by simp [State.unstored, view, State.empty]⟩
  | append_singleton as a ih =>
    obtain ⟨s, has, hstep⟩ := State.performAll_snoc.mp has
    obtain ⟨left, h⟩ := ih has fun hinitial => alone (hinitial.trans (List.prefix_append _ _))
    exact h.step (alone (List.prefix_append _ _) has) has hstep

end

/-- The creation that a call is decided with is the only one that ends for it. -/
theorem endings_of_decision {as : List (Action η)} (has : State.empty.performAll as = some t)
    {d : Decision η} (hd : d ∈ State.empty.decisions as) :
    endings (· == d.call) as = d.creation?.toList := by
  have halone (s : State η) : Alone (· == d.call) s := by
    intro i j _ _ hi hj _ _
    rw [eq_of_beq hi, eq_of_beq hj]
  obtain ⟨left, h⟩ := accounts_of_run has fun _ _ => halone _
  obtain ⟨results, hrun⟩ := Reachable.empty.explains has
  obtain ⟨r, -, hr⟩ := hrun.exists_result hd
  have hleft := h.left_eq_none fun {i} hi => by
    rw [eq_of_beq hi]
    exact State.unstored_of_verdict hr
  rw [h.ended, hleft, creations_of_call hrun.once hd, Option.toList_none, List.append_nil]

end

end TaggedSuite.Session.Cache
