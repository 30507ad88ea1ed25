import TaggedSuite.Proofs.Session.Cache.Origins
import TaggedSuite.Proofs.Session.Cache.Progress
import TaggedSuite.Proofs.Session.Cache.Sharing

/-!
# The steps of scripts

Running a script takes steps, one call after the other and those of a creation before it ends. They
are written down here, so that what is known of runs can be said of scripts. The steps of a script
belong to calls of its own. So the calls that were there before stay where they are, and a script
that leaves the keys alone whose creations are running takes all of its calls to their ends.
-/
namespace TaggedSuite.Session.Cache

variable {η : Type}

/-- Whether a step starts a call or belongs to one of those from a number on. -/
def Action.isFrom (first : Nat) (a : Action η) : Bool := a.call?.all (first ≤ ·)

mutual

/-- Whether no call of a script asks for the key, not even within a creation. -/
def Script.avoids (key : CacheKey) : Script η → Bool
  | .request r => !r.gets key
  | .create k during _ => !k.same key && Script.avoidsAll key during

/-- Whether no call of some scripts asks for the key. -/
def Script.avoidsAll (key : CacheKey) : List (Script η) → Bool
  | [] => true
  | script :: rest => Script.avoids key script && Script.avoidsAll key rest

end

mutual

/-- Whether a script asks for none of the keys, and no creation in it asks for its own key. -/
def Script.unfolds (busy : List CacheKey) : Script η → Bool
  | .request (.getOrCreate _) => false
  | .request _ => true
  | .create key during _ => busy.all (!·.same key) && Script.unfoldsAll (key :: busy) during

/-- Whether some scripts ask for none of the keys, and no creation in them asks for its own key. -/
def Script.unfoldsAll (busy : List CacheKey) : List (Script η) → Bool
  | [] => true
  | script :: rest => Script.unfolds busy script && Script.unfoldsAll busy rest

end

variable [Closable η]

namespace State

/-- The steps of a call, at most the given number, until it waits for something or has come to its
end. -/
def advances (call : Nat) : Nat → State η → List (Action η)
  | 0, _ => []
  | n + 1, s =>
    match s.advance call with
    | some t => .advance call :: advances call n t
    | none => []

/-- The steps that `settle` takes. -/
def settling (s : State η) (call : Nat) : List (Action η) :=
  match s.calls[call]? with
  | some p => s.advances call p.stepsLeft
  | none => []

/-- The steps of a call until it rests. -/
def opening (s : State η) (r : Request) : List (Action η) :=
  .start r :: (s.start r).settling s.calls.length

/-- The steps of a call from the end of its creation on. -/
def ending (s : State η) (call : Nat) (outcome : Outcome η) : List (Action η) :=
  match s.finish call outcome with
  | some t => .finish call outcome :: t.settling call
  | none => s.settling call

end State

mutual

/-- The steps that running a script takes. -/
def Script.steps (s : State η) : Script η → List (Action η)
  | .request r => s.opening r
  | .create key during outcome =>
    let call := s.calls.length
    let mid := (s.start (.getOrCreate key)).settle call
    s.opening (.getOrCreate key) ++
      if mid.isCreating call then
        Script.stepsAll mid during ++ (Script.runAll mid during).1.ending call outcome
      else []

/-- The steps that running scripts one after the other takes. -/
def Script.stepsAll (s : State η) : List (Script η) → List (Action η)
  | [] => []
  | script :: rest => Script.steps s script ++ Script.stepsAll (Script.run s script).1 rest

end

/-! ### Scripts are runs -/

section
variable {s t : State η} {call i first : Nat} {key : CacheKey} {p : Phase η} {as : List (Action η)}

lemma State.performAll_advances (call n : Nat) (s : State η) :
    s.performAll (s.advances call n) = some (s.advanceUpTo call n) := by
  induction n generalizing s with
  | zero => rfl
  | succ n ih =>
    rw [advances, advanceUpTo]
    cases h : s.advance call with
    | none => rfl
    | some t =>
      have hstep : s.perform (.advance call) = some t := h
      rw [performAll_cons]
      exact ⟨t, hstep, ih t⟩

lemma State.performAll_settling (s : State η) (call : Nat) :
    s.performAll (s.settling call) = some (s.settle call) := by
  rw [settling, settle]
  cases s.calls[call]? with
  | none => rfl
  | some p => exact performAll_advances call p.stepsLeft s

lemma State.performAll_opening (s : State η) (r : Request) :
    s.performAll (s.opening r) = some ((s.start r).settle s.calls.length) := by
  rw [opening, performAll_cons]
  exact ⟨s.start r, rfl, performAll_settling _ _⟩

lemma State.performAll_ending (s : State η) (call : Nat) (outcome : Outcome η) :
    s.performAll (s.ending call outcome) =
      some (((s.finish call outcome).getD s).settle call) := by
  rw [ending]
  cases h : s.finish call outcome with
  | none => exact performAll_settling s call
  | some t =>
    have hstep : s.perform (.finish call outcome) = some t := h
    rw [performAll_cons]
    exact ⟨t, hstep, performAll_settling t call⟩

/-- The steps that a run begins with are possible as well. -/
lemma exists_of_prefix {bs : List (Action η)} (hinitial : as <+: bs)
    (hbs : s.performAll bs = some t) :
    ∃ mid, s.performAll as = some mid := by
  obtain ⟨cs, rfl⟩ := hinitial
  induction cs using List.reverseRecOn generalizing t with
  | nil => exact ⟨t, by simpa using hbs⟩
  | append_singleton cs a ih =>
    rw [← List.append_assoc] at hbs
    obtain ⟨mid, hmid, -⟩ := State.performAll_snoc.mp hbs
    exact ih hmid

mutual

/-- Running a script is taking its steps. -/
theorem Script.performAll_steps (s : State η) : (script : Script η) →
    s.performAll (Script.steps s script) = some (Script.run s script).1
  | .request r => s.performAll_opening r
  | .create key during outcome => by
    have hopening := s.performAll_opening (.getOrCreate key)
    rw [Script.steps, Script.run, State.getOrCreate, State.performAll_append hopening]
    dsimp only
    generalize (s.start (.getOrCreate key)).settle s.calls.length = mid
    split_ifs with hcreating
    · rw [State.performAll_append (Script.performAll_stepsAll mid during)]
      exact State.performAll_ending _ _ _
    · rfl

/-- Running scripts is taking their steps. -/
theorem Script.performAll_stepsAll (s : State η) : (scripts : List (Script η)) →
    s.performAll (Script.stepsAll s scripts) = some (Script.runAll s scripts).1
  | [] => rfl
  | script :: rest => by
    rw [Script.stepsAll, State.performAll_append (Script.performAll_steps s script)]
    exact Script.performAll_stepsAll _ rest

end

/-! ### Whose steps they are -/

lemma length_le_of_performAll (has : s.performAll as = some t) :
    s.calls.length ≤ t.calls.length := by
  induction as generalizing s with
  | nil =>
    cases has
    exact Nat.le_refl _
  | cons a as ih =>
    obtain ⟨mid, hstep, has⟩ := State.performAll_cons.mp has
    refine Nat.le_trans ?_ (ih has)
    cases change_of_perform hstep with
    | join _ _ _ calls _ _ => simp [calls]
    | register _ _ calls _ _ _ _ => simp [calls]
    | move _ _ _ _ _ _ calls _ _ _ _ _ | acquire _ _ _ _ _ calls _ _ _ _
    | store _ _ _ _ _ calls _ _ | unlock _ _ _ _ _ calls _ _ _ _
    | leave _ _ _ _ _ calls _ _ _ _ => simp [calls]

/-- Steps of other calls leave a call where it is. -/
lemma call_of_others (has : s.performAll as = some t) (hi : s.calls[i]? = some p)
    (hothers : ∀ a ∈ as, a.call? ≠ some i) : t.calls[i]? = some p := by
  induction as generalizing s with
  | nil =>
    cases has
    exact hi
  | cons a as ih =>
    obtain ⟨mid, hstep, has⟩ := State.performAll_cons.mp has
    obtain ⟨ha, hothers⟩ := List.forall_mem_cons.mp hothers
    exact ih has (call_of_other hstep hi ha) hothers

lemma State.mem_advances {n : Nat} {a : Action η} (ha : a ∈ s.advances call n) :
    a = .advance call := by
  induction n generalizing s with
  | zero => cases ha
  | succ n ih =>
    rw [advances] at ha
    split at ha
    · rcases List.mem_cons.mp ha with rfl | ha
      · rfl
      · exact ih ha
    · cases ha

lemma State.mem_settling {a : Action η} (ha : a ∈ s.settling call) : a = .advance call := by
  rw [settling] at ha
  split at ha
  · exact mem_advances ha
  · cases ha

lemma State.mem_opening {r : Request} {a : Action η} (ha : a ∈ s.opening r) :
    a = .start r ∨ a = .advance s.calls.length := by
  rcases List.mem_cons.mp ha with rfl | ha
  · exact .inl rfl
  · exact .inr (mem_settling ha)

lemma State.mem_ending {outcome : Outcome η} {a : Action η} (ha : a ∈ s.ending call outcome) :
    a = .finish call outcome ∨ a = .advance call := by
  rw [ending] at ha
  split at ha
  · rcases List.mem_cons.mp ha with rfl | ha
    · exact .inl rfl
    · exact .inr (mem_settling ha)
  · exact .inr (mem_settling ha)

/-- A call gets its number when it begins. -/
lemma State.length_lt_of_opening (s : State η) (r : Request) :
    s.calls.length < ((s.start r).settle s.calls.length).calls.length := by
  have hstart : s.calls.length < (s.start r).calls.length := by
    cases change_start s r with
    | join _ _ _ calls _ _ => simp [calls]
    | register _ _ calls _ _ _ _ => simp [calls]
    | move _ _ on _ _ _ _ _ _ _ _ _ => cases on
  exact Nat.lt_of_lt_of_le hstart
    (length_le_of_performAll (State.performAll_settling (s.start r) s.calls.length))

mutual

/-- The steps of a script belong to its own calls, and start none that asks for a key that the
script avoids. -/
theorem Script.mem_steps (s : State η) (key : CacheKey) {a : Action η} : (script : Script η) →
    a ∈ Script.steps s script → a.isFrom s.calls.length = true ∧
      (Script.avoids key script = true → ∀ r, a.request? = some r → r.gets key = false)
  | .request r, ha => by
    rcases State.mem_opening ha with rfl | rfl
    · simp [Action.isFrom, Action.call?, Action.request?, Script.avoids]
    · simp [Action.isFrom, Action.call?, Action.request?]
  | .create k during outcome, ha => by
    rw [Script.steps] at ha
    rcases List.mem_append.mp ha with ha | ha
    · rcases State.mem_opening ha with rfl | rfl
      · refine ⟨rfl, fun havoids r hr => ?_⟩
        cases hr
        rw [Script.avoids, Bool.and_eq_true, Bool.not_eq_true'] at havoids
        exact havoids.1
      · simp [Action.isFrom, Action.call?, Action.request?]
    · have hlength := s.length_lt_of_opening (.getOrCreate k)
      split_ifs at ha
      · rcases List.mem_append.mp ha with ha | ha
        · obtain ⟨hfrom, hgets⟩ := Script.mem_stepsAll _ key during ha
          refine ⟨?_, fun havoids => hgets ?_⟩
          · simp only [Action.isFrom, Option.all_eq_true, decide_eq_true_eq] at hfrom ⊢
            intro c hc
            exact Nat.le_trans (Nat.le_of_lt hlength) (hfrom c hc)
          · rw [Script.avoids, Bool.and_eq_true] at havoids
            exact havoids.2
        · rcases State.mem_ending ha with rfl | rfl <;>
            simp [Action.isFrom, Action.call?, Action.request?]
      · cases ha

theorem Script.mem_stepsAll (s : State η) (key : CacheKey) {a : Action η} :
    (scripts : List (Script η)) → a ∈ Script.stepsAll s scripts →
      a.isFrom s.calls.length = true ∧
        (Script.avoidsAll key scripts = true → ∀ r, a.request? = some r → r.gets key = false)
  | [], ha => by cases ha
  | script :: rest, ha => by
    rw [Script.stepsAll] at ha
    rcases List.mem_append.mp ha with ha | ha
    · obtain ⟨hfrom, hgets⟩ := Script.mem_steps s key script ha
      refine ⟨hfrom, fun havoids => hgets ?_⟩
      rw [Script.avoidsAll, Bool.and_eq_true] at havoids
      exact havoids.1
    · obtain ⟨hfrom, hgets⟩ := Script.mem_stepsAll _ key rest ha
      have hlength := length_le_of_performAll (Script.performAll_steps s script)
      refine ⟨?_, fun havoids => hgets ?_⟩
      · simp only [Action.isFrom, Option.all_eq_true, decide_eq_true_eq] at hfrom ⊢
        intro c hc
        exact Nat.le_trans hlength (hfrom c hc)
      · rw [Script.avoidsAll, Bool.and_eq_true] at havoids
        exact havoids.2

end

/-- Scripts leave the calls alone that were there before. -/
lemma Script.others_stepsAll {scripts : List (Script η)} (hcall : call < s.calls.length) :
    ∀ a ∈ Script.stepsAll s scripts, a.call? ≠ some call := by
  intro a ha hown
  -- which key the scripts may avoid does not matter here
  have hfrom := (Script.mem_stepsAll s default scripts ha).1
  simp only [Action.isFrom, hown, Option.all_some, decide_eq_true_eq] at hfrom
  omega

/-- Scripts that avoid a key make no call for it. -/
lemma Script.requests_stepsAll {scripts : List (Script η)}
    (havoids : Script.avoidsAll key scripts = true) :
    ∀ r ∈ requests (Script.stepsAll s scripts), r.gets key = false := by
  intro r hr
  obtain ⟨a, ha, hrequest⟩ := List.mem_filterMap.mp hr
  exact (Script.mem_stepsAll s key scripts ha).2 havoids r hrequest

end

end TaggedSuite.Session.Cache
