import TaggedSuite.Proofs.Schema.Bundled
import TaggedSuite.Proofs.Schema.Telling
import TaggedSuite.Proofs.Value.Writable

/-!
# When a check has no verdict

A check that finds violations tells of them, and it has no verdict if one of them cannot be told of.
With the bundled schemas there is one reason for that: the value that is checked has no text. None
of their rules divides numbers, and all keys that they lead to are texts.
-/
namespace TaggedSuite

/-- All that can keep the violation from being told is that the value has no text. -/
structure Violation.TellsOf (v : Value) (x : Violation) : Prop where
  path : ∃ keys, x.path = placeOf keys
  fault : ∀ f, x.text = .error f → f = .unwritable ∧ ¬v.IsWritable

namespace Violation.TellsOf

variable {v w : Value} {x : Violation} {f : CheckFault}

/-- A message that is there if the value can be shown. -/
lemma here {text? : Option String} (h : v.IsWritable → text?.isSome = true) :
    (Violation.here text?).TellsOf v where
  path := ⟨[], rfl⟩
  fault f hf := by
    cases text? with
    | none =>
      cases hf
      exact ⟨rfl, fun hv => Bool.false_ne_true (h hv)⟩
    | some text => cases hf

lemma ofFault (h : f = .unwritable ∧ ¬v.IsWritable) : (Violation.fault f).TellsOf v where
  path := ⟨[], rfl⟩
  fault g hg := by
    cases hg
    exact h

/-- A value without a text leaves those without one that it is part of. -/
lemma imp (hx : x.TellsOf v) (h : w.IsWritable → v.IsWritable) : x.TellsOf w :=
  ⟨hx.path, fun f hf => (hx.fault f hf).imp_right (mt h)⟩

lemma under (hx : x.TellsOf v) (key : String) : (x.under (.str key)).TellsOf v := by
  obtain ⟨⟨keys, hkeys⟩, hfault⟩ := hx
  exact ⟨⟨key :: keys, congrArg (Scalar.str key :: ·) hkeys⟩, hfault⟩

lemma of_fault? (hx : x.TellsOf v) (h : x.fault? = some f) : f = .unwritable ∧ ¬v.IsWritable := by
  rw [Violation.fault?] at h
  cases htext : x.text with
  | ok text => simp [htext] at h
  | error g =>
    rw [htext] at h
    exact Option.some.inj h ▸ hx.fault g htext

end Violation.TellsOf

/-- Without a verdict a check has found that the value has no text. -/
lemma CompiledSchema.problems_eq_error {c : CompiledSchema} {v : Value} {f : CheckFault}
    (hfound : ∀ x ∈ c.schema.violations v, x.TellsOf v) (h : c.problems v = .error f) :
    f = .unwritable ∧ ¬v.IsWritable := by
  rw [problems, Schema.problems, bind_eq_error] at h
  rcases h with h | ⟨texts, -, h⟩
  · obtain ⟨x, hx, htext⟩ := exists_of_mapM_eq_error h
    exact (hfound x hx).fault f htext
  · rcases bind_eq_error.1 h with h | ⟨paths, -, h⟩
    · obtain ⟨x, hx, hsteps⟩ := exists_of_mapM_eq_error h
      obtain ⟨keys, hkeys⟩ := (hfound x hx).path
      rw [Schema.steps_placeOf hkeys] at hsteps
      cases hsteps
    · cases h

namespace Schema

variable {v : Value} {entries : Entries} {document : Value} {f : CheckFault}

/-- A schema whose violations can be told if the value has a text. -/
def Tells (s : Schema) : Prop := ∀ v, ∀ x ∈ s.violations v, x.TellsOf v

/-! ### Rules -/

lemma tells_rules {rs : List Rule} (h : ∀ r ∈ rs, ∀ v, ∀ x ∈ ruleViolations v r, x.TellsOf v) :
    (rules rs).Tells := by
  intro v x hx
  rw [violations] at hx
  induction rs with
  | nil => cases hx
  | cons r rs ih =>
    obtain ⟨hfirst, hrest⟩ := List.forall_mem_cons.1 h
    rw [rulesViolations, List.mem_append] at hx
    rcases hx with hx | hx
    · exact hfirst v x hx
    · exact ih hrest hx

lemma ruleViolations_type_tells (ts : List ValueType) :
    ∀ x ∈ ruleViolations v (.type ts), x.TellsOf v := by
  intro x hx
  rw [ruleViolations] at hx
  split_ifs at hx
  · cases hx
  · obtain rfl := List.mem_singleton.1 hx
    refine .here fun hv => ?_
    obtain ⟨text, htext⟩ := Option.isSome_iff_exists.1 hv
    simp [htext]

lemma ruleViolations_bound_tells {b : Bound} {limit : Scalar} (hlimit : limit.IsWritable) :
    ∀ x ∈ ruleViolations v (.bound b limit), x.TellsOf v := by
  intro x hx
  cases v with
  | scalar s =>
    rw [ruleViolations] at hx
    split_ifs at hx
    · obtain rfl := List.mem_singleton.1 hx
      refine .here fun hv => ?_
      obtain ⟨text, htext⟩ := Option.isSome_iff_exists.1 (Value.isWritable_scalar.1 hv)
      obtain ⟨text', htext'⟩ := Option.isSome_iff_exists.1 hlimit
      simp [Bound.text?, htext, htext']
    · cases hx
  | list _ | tuple _ | map _ | view _ | set _ => simp [ruleViolations] at hx

lemma ruleViolations_properties_tells {ss : List (String × Schema)} (h : ∀ s ∈ ss, s.2.Tells) :
    ∀ x ∈ ruleViolations v (.properties ss), x.TellsOf v := by
  intro x hx
  cases v with
  | map entries =>
    rw [ruleViolations] at hx
    induction ss with
    | nil => simp [propertiesViolations] at hx
    | cons s ss ih =>
      obtain ⟨hfirst, hrest⟩ := List.forall_mem_cons.1 h
      rw [propertiesViolations, List.mem_append] at hx
      rcases hx with hx | hx
      · cases hw : Entries.get? entries (.str s.1) with
        | none =>
          rw [hw] at hx
          cases hx
        | some w =>
          rw [hw] at hx
          obtain ⟨y, hy, rfl⟩ := List.mem_map.1 hx
          exact ((hfirst w y hy).under s.1).imp fun hv => (Value.isWritable_map.1 hv).of_get? hw
      · exact ih hrest hx
  | scalar _ | list _ | tuple _ | view _ | set _ => simp [ruleViolations] at hx

/-- A verdict is missing if the first violation has a fault. -/
lemma verdict_eq_error {xs : List Violation} (hxs : ∀ x ∈ xs, x.TellsOf v)
    (h : verdict xs = .error f) : f = .unwritable ∧ ¬v.IsWritable := by
  cases xs with
  | nil => cases h
  | cons x xs => exact (hxs x List.mem_cons_self).fault f (map_eq_error.1 h)

lemma refusals?_eq_error {found : List (List Violation)}
    (hfound : ∀ xs ∈ found, ∀ x ∈ xs, x.TellsOf v) (h : refusals? found = .error f) :
    f = .unwritable ∧ ¬v.IsWritable := by
  induction found with
  | nil => cases h
  | cons xs found ih =>
    obtain ⟨hfirst, hrest⟩ := List.forall_mem_cons.1 hfound
    cases xs with
    | nil => cases h
    | cons x xs =>
      rw [refusals?] at h
      split at h
      · next g hg =>
        obtain ⟨y, hy, hfault⟩ := List.exists_of_findSome?_eq_some hg
        cases h
        exact (hfirst y hy).of_fault? hfault
      · rcases bind_eq_error.1 h with h | ⟨n?, -, h⟩
        · exact ih hrest h
        · cases h
      · simp

lemma accepting_eq_error {found : List (Value × List Violation)}
    (hfound : ∀ e ∈ found, ∀ x ∈ e.2, x.TellsOf v) (h : accepting found = .error f) :
    f = .unwritable ∧ ¬v.IsWritable := by
  induction found with
  | nil => cases h
  | cons e found ih =>
    obtain ⟨hfirst, hrest⟩ := List.forall_mem_cons.1 hfound
    rw [accepting, bind_eq_error] at h
    rcases h with h | ⟨isValid, -, h⟩
    · exact verdict_eq_error hfirst h
    · rcases bind_eq_error.1 h with h | ⟨others, -, h⟩
      · exact ih hrest h
      · cases h

/-- Only documents that are there are accepting ones. -/
lemma accepting_subset {found : List (Value × List Violation)} {more : List Value}
    (h : accepting found = .ok more) : ∀ d ∈ more, ∃ e ∈ found, e.1 = d := by
  induction found generalizing more with
  | nil =>
    cases h
    exact List.forall_mem_nil _
  | cons e found ih =>
    obtain ⟨isValid, -, h⟩ := bind_eq_ok.1 h
    obtain ⟨others, hothers, h⟩ := bind_eq_ok.1 h
    obtain rfl := Except.ok.inj h
    intro d hd
    split_ifs at hd
    · rcases List.mem_cons.1 hd with rfl | hd
      · exact ⟨e, List.mem_cons_self, rfl⟩
      · obtain ⟨e', he', hsame⟩ := ih hothers d hd
        exact ⟨e', List.mem_cons_of_mem e he', hsame⟩
    · obtain ⟨e', he', hsame⟩ := ih hothers d hd
      exact ⟨e', List.mem_cons_of_mem e he', hsame⟩

lemma exists_mapM_shown? {vs : List Value} (h : ∀ v ∈ vs, v.IsWritable) :
    ∃ texts, vs.mapM Value.shown? = some texts := by
  induction vs with
  | nil => exact ⟨[], rfl⟩
  | cons v vs ih =>
    obtain ⟨hfirst, hrest⟩ := List.forall_mem_cons.1 h
    obtain ⟨text, htext⟩ := Option.isSome_iff_exists.1 hfirst
    obtain ⟨texts, htexts⟩ := ih hrest
    exact ⟨text :: texts, by rw [List.mapM_cons, htext, htexts]; rfl⟩

lemma eachViolations_tells {ss : List Schema} (h : ∀ s ∈ ss, s.Tells) :
    ∀ xs ∈ eachViolations v ss, ∀ x ∈ xs, x.TellsOf v := by
  induction ss with
  | nil => exact List.forall_mem_nil _
  | cons s ss ih =>
    obtain ⟨hfirst, hrest⟩ := List.forall_mem_cons.1 h
    rw [eachViolations]
    exact List.forall_mem_cons.2 ⟨hfirst v, ih hrest⟩

lemma ruleViolations_oneOf_tells {ss : List Schema} {documents : List Value}
    (h : ∀ s ∈ ss, s.Tells) (hdocuments : ∀ d ∈ documents, d.IsWritable) :
    ∀ x ∈ ruleViolations v (.oneOf ss documents), x.TellsOf v := by
  have hfound := eachViolations_tells (v := v) h
  intro x hx
  rw [ruleViolations, oneOfViolations] at hx
  split at hx
  · next hrefusals =>
    obtain rfl := List.mem_singleton.1 hx
    exact .ofFault (refusals?_eq_error hfound hrefusals)
  · obtain rfl := List.mem_singleton.1 hx
    refine .here fun hv => ?_
    obtain ⟨text, htext⟩ := Option.isSome_iff_exists.1 hv
    simp [htext]
  · next n _ =>
    have hzip : ∀ e ∈ (documents.zip (eachViolations v ss)).drop (n + 1),
        e.1 ∈ documents ∧ ∀ x ∈ e.2, x.TellsOf v := by
      intro e he
      obtain ⟨hdocument, hxs⟩ := List.of_mem_zip (List.mem_of_mem_drop he)
      exact ⟨hdocument, hfound e.2 hxs⟩
    split at hx
    · next haccepting =>
      obtain rfl := List.mem_singleton.1 hx
      exact .ofFault (accepting_eq_error (fun e he => (hzip e he).2) haccepting)
    · cases hx
    · next more _ haccepting =>
      obtain rfl := List.mem_singleton.1 hx
      refine .here fun hv => ?_
      have hnamed : ∀ d ∈ more ++ documents[n]?.toList, d.IsWritable := by
        intro d hd
        rcases List.mem_append.1 hd with hd | hd
        · obtain ⟨e, he, rfl⟩ := accepting_subset haccepting d hd
          exact hdocuments e.1 (hzip e he).1
        · exact hdocuments d (List.mem_of_getElem? (Option.mem_toList.1 hd))
      obtain ⟨text, htext⟩ := Option.isSome_iff_exists.1 hv
      obtain ⟨texts, htexts⟩ := exists_mapM_shown? hnamed
      simp [htext, htexts]

/-! ### Documents -/

/-- The schema of the document tells of its violations. -/
def Telling (document : Value) : Prop := ∀ s, ofValue document = .ok s → s.Tells

lemma telling_kind {name : String} {t : ValueType} (h : ValueType.ofName? name = some t) :
    Telling (Bundled.kind name) := by
  intro s hs
  rw [ofValue_kind h] at hs
  cases hs
  refine tells_rules (List.forall_mem_singleton.2 fun v => ?_)
  exact ruleViolations_type_tells _

lemma telling_count : Telling Bundled.count := by
  intro s hs
  rw [ofValue_count] at hs
  cases hs
  refine tells_rules (List.forall_mem_cons.2 ⟨fun v => ?_, List.forall_mem_singleton.2 fun v => ?_⟩)
  · exact ruleViolations_type_tells _
  · exact ruleViolations_bound_tells rfl

lemma telling_of_properties {properties : List (String × Value)}
    (h : ofValue document = (schemaEntries (named properties)).map fun ss =>
      .rules [.type [.object], .properties ss])
    (hproperties : ∀ p ∈ properties, Telling p.2) : Telling document := by
  intro s hs
  obtain ⟨ss, hss, rfl⟩ := map_eq_ok.1 (h.symm.trans hs)
  refine tells_rules (List.forall_mem_cons.2 ⟨fun v => ?_, List.forall_mem_singleton.2 fun v => ?_⟩)
  · exact ruleViolations_type_tells _
  · refine ruleViolations_properties_tells ?_
    rw [schemaEntries_eq_ok, named, List.forall₂_map_left_iff] at hss
    clear h hs
    induction hss with
    | nil => exact List.forall_mem_nil _
    | @cons p s _ ss hp _ ih =>
      obtain ⟨hfirst, hrest⟩ := List.forall_mem_cons.1 hproperties
      exact List.forall_mem_cons.2 ⟨hfirst s.2 hp.2, ih hrest⟩

lemma telling_record {properties : List (String × Value)} (h : ∀ p ∈ properties, Telling p.2) :
    Telling (Bundled.record properties) :=
  telling_of_properties (ofValue_record properties) h

end Schema

/-! ### The bundled documents -/

namespace Bundled

open Schema (Telling)

lemma telling_modes : Telling modes := by
  apply Schema.telling_record
  simp only [List.forall_mem_cons]
  exact ⟨Schema.telling_count, Schema.telling_count, List.forall_mem_nil _⟩

lemma telling_retries : Telling retries := by
  intro u hu
  obtain ⟨s, hs⟩ := Schema.isSchema_count
  obtain ⟨t, ht⟩ := isSchema_modes
  rw [ofValue_retries hs ht] at hu
  cases hu
  refine Schema.tells_rules (List.forall_mem_singleton.2 fun v => ?_)
  refine Schema.ruleViolations_oneOf_tells ?_ ?_
  · simp only [List.forall_mem_cons]
    exact ⟨Schema.telling_count s hs, telling_modes t ht, List.forall_mem_nil _⟩
  · have hcount : count.IsWritable := rfl
    have hmodes : modes.IsWritable := rfl
    simp only [List.forall_mem_cons]
    exact ⟨hcount, hmodes, List.forall_mem_nil _⟩

lemma telling_selection : ∀ p ∈ selectionProperties, Telling p.2 := by
  simp only [selectionProperties, List.forall_mem_cons]
  exact ⟨Schema.telling_kind rfl, Schema.telling_kind rfl, Schema.telling_kind rfl,
    Schema.telling_kind rfl, List.forall_mem_nil _⟩

lemma telling_target : ∀ p ∈ targetProperties, Telling p.2 := by
  simp only [targetProperties, List.forall_mem_cons]
  exact ⟨Schema.telling_kind rfl, Schema.telling_kind rfl, Schema.telling_kind rfl,
    Schema.telling_kind rfl, Schema.telling_kind rfl, List.forall_mem_nil _⟩

lemma telling_base : ∀ p ∈ baseProperties, Telling p.2 := by
  simp only [baseProperties, List.forall_mem_cons]
  exact ⟨Schema.telling_kind rfl, Schema.telling_count, Schema.telling_count,
    Schema.telling_count, Schema.telling_count, Schema.telling_count, telling_retries,
    Schema.telling_kind rfl, Schema.telling_record telling_selection, List.forall_mem_nil _⟩

lemma telling_overlay : ∀ p ∈ overlayProperties, Telling p.2 := by
  simp only [overlayProperties, List.forall_mem_cons]
  exact ⟨Schema.telling_kind rfl, Schema.telling_record
    (List.forall_mem_append.2 ⟨telling_target, telling_selection⟩), List.forall_mem_nil _⟩

lemma telling_of_standard {e : String × Value} (he : e ∈ standard) : Telling e.2 := by
  simp only [standard, List.mem_cons, List.not_mem_nil, or_false] at he
  rcases he with rfl | rfl
  · exact Schema.telling_of_properties (Schema.ofValue_document _ _) telling_base
  · exact Schema.telling_of_properties (Schema.ofValue_document _ _) telling_overlay

end Bundled

end TaggedSuite
