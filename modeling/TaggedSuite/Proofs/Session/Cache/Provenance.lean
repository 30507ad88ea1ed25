import TaggedSuite.Proofs.Session.Cache.Linearizable

/-!
# Where handles come from

A handle that a call gets was returned by a creation of the run, and the call that ran this creation
had asked for the same key. On a plain map this is seen call by call: what is put in comes from the
creation of the call, and what is found was put in before. The cache is linearizable to such a map.
-/
namespace TaggedSuite.Session.Cache

variable {η : Type}

namespace PlainMap

variable {m m' : PlainMap η} {r : Request} {creation? : Option (Outcome η)} {result : Result η}
  {ds : List (Decision η)} {results : List (Nat × Result η)} {h : η} {i : Nat}

/-- What a call does with handles. -/
structure Hands (m : PlainMap η) (r : Request) (creation? : Option (Outcome η)) (m' : PlainMap η)
    (result : Result η) : Prop where
  /-- An entry was there before, or the creation of the call has returned its handle. -/
  entries : ∀ e ∈ m', e ∈ m ∨ r = .getOrCreate e.key ∧ creation? = some (.ok e.handle)
  /-- The handle that the call ends with was found under its key, or its creation has returned it.
  -/
  handle : ∀ {h}, result = .handle h → ∃ key, r = .getOrCreate key ∧
    ((∃ e ∈ m, e.key.same key = true ∧ e.handle = h) ∨ creation? = some (.ok h))

lemma hands_of_sublist (hsub : m'.Sublist m) (hresult : ∀ h, result ≠ .handle h) :
    Hands m r creation? m' result where
  entries _ he := .inl (hsub.mem he)
  handle hh := absurd hh (hresult _)

lemma hands_getOrCreate {key : CacheKey} (hcall : m.getOrCreate key creation? = some (m', result)) :
    Hands m (.getOrCreate key) creation? m' result := by
  cases hkey : key.isHashable with
  | false =>
    unfold getOrCreate at hcall
    rw [hkey, if_neg Bool.false_ne_true] at hcall
    split_ifs at hcall
    cases hcall
    exact hands_of_sublist (.refl _) (by simp)
  | true =>
    cases hcached : m.cached? key with
    | some e =>
      obtain ⟨-, rfl, rfl⟩ := (getOrCreate_cached hkey hcached).1 hcall
      rw [cached?, List.find?_eq_some_iff_append] at hcached
      obtain ⟨hsame, front, back, rfl, -⟩ := hcached
      refine ⟨fun _ he => .inl he, ?_⟩
      rintro h ⟨⟩
      exact ⟨key, rfl, .inl ⟨e, List.mem_append_cons_self, hsame, rfl⟩⟩
    | none =>
      rcases (getOrCreate_absent hkey hcached).1 hcall with ⟨h, rfl, rfl, rfl⟩ | ⟨f, rfl, rfl, rfl⟩
      · refine ⟨fun e he => ?_, ?_⟩
        · rcases List.mem_append.1 he with he | he
          · exact .inl he
          · rw [List.mem_singleton.1 he]
            exact .inr ⟨rfl, rfl⟩
        · rintro h' ⟨⟩
          exact ⟨key, rfl, .inr rfl⟩
      · exact hands_of_sublist (.refl _) (by simp)

lemma hands_call (hcall : m.call r creation? = some (m', result)) :
    Hands m r creation? m' result := by
  cases r with
  | getOrCreate key => exact hands_getOrCreate hcall
  | get key | contains key =>
    cases creation? with
    | some o => cases hcall
    | none =>
      obtain ⟨rfl, rfl⟩ := Prod.mk.inj (Option.some.inj hcall)
      refine hands_of_sublist (.refl _) fun h => ?_
      split_ifs <;> simp
  | invalidate key =>
    cases creation? with
    | some o => cases hcall
    | none =>
      have hcall := Option.some.inj hcall
      rw [invalidate] at hcall
      split_ifs at hcall <;> cases hcall
      · exact hands_of_sublist List.filter_sublist (by simp)
      · exact hands_of_sublist (.refl _) (by simp)
  | invalidateActor actor =>
    cases creation? with
    | some o => cases hcall
    | none =>
      have hcall := Option.some.inj hcall
      rw [invalidateActor] at hcall
      split at hcall <;> cases hcall
      · exact hands_of_sublist (.refl _) (by simp)
      · exact hands_of_sublist List.filter_sublist (by simp)
  | clear =>
    cases creation? with
    | some o => cases hcall
    | none =>
      cases hcall
      exact hands_of_sublist (List.nil_sublist m) (by simp)

/-- The handle was found in the map under the key, or a creation of the calls for it returned it. -/
def Given (m : PlainMap η) (ds : List (Decision η)) (key : CacheKey) (h : η) : Prop :=
  (∃ e ∈ m, e.key.same key = true ∧ e.handle = h) ∨
    ∃ d ∈ ds, ∃ other, d.request = .getOrCreate other ∧ other.same key = true ∧
      d.creation? = some (.ok h)

lemma Given.of_call {mid : PlainMap η} {d : Decision η} {key : CacheKey}
    (hgiven : Given mid ds key h) (hhands : Hands m d.request d.creation? mid result) :
    Given m (d :: ds) key h := by
  rcases hgiven with ⟨e, he, hsame, rfl⟩ | ⟨d', hd', other, hother⟩
  · rcases hhands.entries e he with he | ⟨hrequest, hcreation⟩
    · exact .inl ⟨e, he, hsame, rfl⟩
    · exact .inr ⟨d, List.mem_cons_self, e.key, hrequest, hsame, hcreation⟩
  · exact .inr ⟨d', List.mem_cons_of_mem d hd', other, hother⟩

/-- A handle that a call returns was given for the key that the call asks for. -/
theorem given_of_run (hrun : m.run ds = some (m', results)) (hmem : (i, .handle h) ∈ results) :
    ∃ d ∈ ds, d.call = i ∧ ∃ key, d.request = .getOrCreate key ∧ Given m ds key h := by
  induction ds generalizing m results with
  | nil =>
    cases hrun
    cases hmem
  | cons d ds ih =>
    obtain ⟨mid, r, rest, hcall, hrest, rfl⟩ := run_cons.1 hrun
    have hhands := hands_call hcall
    rcases List.mem_cons.1 hmem with hfirst | hlater
    · obtain ⟨rfl, rfl⟩ := Prod.mk.inj hfirst
      obtain ⟨key, hrequest, hfound | hcreated⟩ := hhands.handle rfl
      · exact ⟨d, List.mem_cons_self, rfl, key, hrequest, .inl hfound⟩
      · exact ⟨d, List.mem_cons_self, rfl, key, hrequest,
          .inr ⟨d, List.mem_cons_self, key, hrequest, CacheKey.same_self key, hcreated⟩⟩
    · obtain ⟨d', hd', hcall', key, hrequest, hgiven⟩ := ih hrest hlater
      exact ⟨d', List.mem_cons_of_mem d hd', hcall', key, hrequest, hgiven.of_call hhands⟩

end PlainMap

variable {as : List (Action η)} {t : State η} {i : Nat} {h : η}

lemma finish_mem_of_endings {calls : Nat → Bool} {o : Outcome η} (ho : o ∈ endings calls as) :
    ∃ j, calls j = true ∧ .finish j o ∈ as := by
  obtain ⟨a, ha, hending⟩ := List.mem_filterMap.1 ho
  cases a with
  | start r => cases hending
  | advance j => cases hending
  | finish j outcome =>
    rw [Action.ending?] at hending
    split_ifs at hending with hcall
    obtain rfl := Option.some.inj hending
    exact ⟨j, hcall, ha⟩

variable [Closable η]

/-- A handle that a call ends with was returned by the creation of a call that had asked for the
same key. -/
theorem exists_creation_of_handle (has : State.empty.performAll as = some t)
    (hresult : t.result? i = some (.handle h)) :
    ∃ key j other, (requests as)[i]? = some (.getOrCreate key) ∧
      (requests as)[j]? = some (.getOrCreate other) ∧ other.same key = true ∧
        .finish j (.ok h) ∈ as := by
  obtain ⟨results, hlinear⟩ := linearizes_of_run has
  obtain ⟨d, hd, rfl, key, hrequest, hgiven⟩ :=
    PlainMap.given_of_run hlinear.plain (hlinear.reported hresult)
  rcases hgiven with ⟨e, he, -⟩ | ⟨d', hd', other, hother, hsame, hcreation⟩
  · cases he
  · have hended : Except.ok h ∈ endings (· == d'.call) as := by
      rw [hlinear.created d' hd', hcreation]
      exact List.mem_singleton_self _
    obtain ⟨j, hj, hfinish⟩ := finish_mem_of_endings hended
    obtain rfl := eq_of_beq hj
    exact ⟨key, d'.call, other, by rw [hlinear.asked d hd, hrequest],
      by rw [hlinear.asked d' hd', hother], hsame, hfinish⟩

end TaggedSuite.Session.Cache
