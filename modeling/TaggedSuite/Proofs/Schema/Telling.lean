import TaggedSuite.Proofs.Schema.Documents
import TaggedSuite.Proofs.SideBySide
import TaggedSuite.Proofs.Value.SameExcept

/-!
# What violations tell of a value

Two values are the same but for something at one place in them. If documents speak of the parts on
the way to this place as records do, their violations are the same for both values, except for those
at the place itself. The order in which violations are listed goes by places alone, so it is the
same, too.
-/
namespace TaggedSuite

/-- The place that keys lead to. -/
def placeOf (keys : List String) : List Scalar := keys.map .str

/-- The texts are the same, or both are there and go together. -/
def TextExcept (Texts : String → String → Prop) (told told' : Except CheckFault String) : Prop :=
  told' = told ∨ ∃ text text', told = .ok text ∧ told' = .ok text' ∧ Texts text text'

/-- The violations are at one place, and they say the same, except at the given place. -/
structure Violation.SameExcept (keys : List String) (Texts : String → String → Prop)
    (x y : Violation) : Prop where
  path : y.path = x.path
  text : y.text = x.text ∨ x.path = placeOf keys ∧ TextExcept Texts x.text y.text

/-- The lines are the same, except those about the given place. -/
def LineExcept (keys : List String) (Texts : String → String → Prop) (line line' : String) :
    Prop :=
  line' = line ∨ ∃ text text', Texts text text' ∧ line = Schema.line keys text ∧
    line' = Schema.line keys text'

variable {keys : List String} {Texts : String → String → Prop} {key : String}

lemma Violation.SameExcept.refl (x : Violation) : SameExcept keys Texts x x := ⟨rfl, .inl rfl⟩

lemma Violation.SameExcept.under {x y : Violation} (h : SameExcept keys Texts x y) (key : String) :
    SameExcept (key :: keys) Texts (x.under (.str key)) (y.under (.str key)) :=
  ⟨congrArg (Scalar.str key :: ·) h.path, h.text.imp_right fun ⟨hpath, htexts⟩ =>
    ⟨congrArg (Scalar.str key :: ·) hpath, htexts⟩⟩

namespace Schema

variable {Others : Value → Value → Prop} {document v w : Value} {entries entries' : Entries}

/-! ### Lines -/

/-- The violations as texts behind the steps that lead to them go together. -/
def EntryExcept (keys : List String) (Texts : String → String → Prop)
    (e e' : List String × String) : Prop :=
  e'.1 = e.1 ∧ (e'.2 = e.2 ∨ e.1 = keys ∧ Texts e.2 e'.2)

lemma EntryExcept.line {e e' : List String × String} (h : EntryExcept keys Texts e e') :
    LineExcept keys Texts (Schema.line e.1 e.2) (Schema.line e'.1 e'.2) := by
  obtain ⟨path, text⟩ := e
  obtain ⟨path', text'⟩ := e'
  obtain ⟨rfl, htext⟩ := h
  rcases htext with rfl | ⟨rfl, htexts⟩
  · exact .inl rfl
  · exact .inr ⟨text, text', htexts, rfl, rfl⟩

lemma mapM_plain?_placeOf (keys : List String) :
    (placeOf keys).mapM Scalar.plain? = some keys := by
  induction keys with
  | nil => rfl
  | cons key keys ih =>
    have hcons : placeOf (key :: keys) = .str key :: placeOf keys := rfl
    rw [hcons, List.mapM_cons, ih]
    rfl

/-- The place that keys lead to is written by these keys. -/
lemma steps_placeOf {x : Violation} (h : x.path = placeOf keys) : x.steps = .ok keys := by
  rw [Violation.steps, h, mapM_plain?_placeOf]
  rfl

/-- The same steps lead to both. -/
lemma mapM_steps {xs ys : List Violation}
    (h : List.Forall₂ (Violation.SameExcept keys Texts) xs ys) :
    ys.mapM Violation.steps = xs.mapM Violation.steps := by
  induction h with
  | nil => rfl
  | @cons x y xs ys hxy _ ih =>
    have hsteps : y.steps = x.steps := by rw [Violation.steps, Violation.steps, hxy.path]
    rw [List.mapM_cons, List.mapM_cons, hsteps, ih]

/-- The texts go together, behind the steps that lead to them. -/
lemma rel_mapM_text {xs ys : List Violation}
    (h : List.Forall₂ (Violation.SameExcept keys Texts) xs ys) :
    Outcomes Eq (fun texts texts' => ∀ paths, xs.mapM Violation.steps = .ok paths →
      List.Forall₂ (EntryExcept keys Texts) (paths.zip texts) (paths.zip texts'))
      (xs.mapM (·.text)) (ys.mapM (·.text)) := by
  induction h with
  | nil =>
    refine .ok fun paths _ => ?_
    rw [List.reverse_nil, List.zip_nil_right]
    exact .nil
  | @cons x y xs ys hxy _ ih =>
    have hfirst : Outcomes Eq (fun text text' => text' = text ∨ x.path = placeOf keys ∧
        Texts text text') x.text y.text := by
      rcases hxy.text with hsame | ⟨hplace, hsame | ⟨text, text', hx, hy, htexts⟩⟩
      · exact (Outcomes.of_eq (fun _ => rfl) hsame).imp fun _ _ h => .inl h.symm
      · exact (Outcomes.of_eq (fun _ => rfl) hsame).imp fun _ _ h => .inl h.symm
      · rw [hx, hy]
        exact .ok (.inr ⟨hplace, htexts⟩)
    have hcons (z : Violation) (zs : List Violation) : (z :: zs).mapM (·.text) =
        z.text >>= fun text => zs.mapM (·.text) >>= fun texts => pure (text :: texts) :=
      List.mapM_cons
    rw [hcons, hcons]
    refine hfirst.bind fun text text' htext => ih.bind fun texts texts' htexts => ?_
    refine .ok fun paths hpaths => ?_
    obtain ⟨path, rest, hpath, hrest, rfl⟩ := List.forall₂_cons_left_iff.1 (mapM_eq_ok.1 hpaths)
    refine .cons ⟨rfl, htext.imp_right fun ⟨hplace, htold⟩ => ⟨?_, htold⟩⟩
      (htexts rest (mapM_eq_ok.2 hrest))
    rw [steps_placeOf hplace] at hpath
    exact (Except.ok.inj hpath).symm

/-! ### Documents -/

/-- The schema of the document reports the same for both values, except at the place. -/
def Blind (keys : List String) (Texts : String → String → Prop) (document v w : Value) : Prop :=
  ∀ s, ofValue document = .ok s →
    List.Forall₂ (Violation.SameExcept keys Texts) (s.violations v) (s.violations w)

/-- The lines go together, or there is the same fault. -/
lemma Blind.problems {c : CompiledSchema} (h : Blind keys Texts document v w)
    (hc : ofValue document = .ok c.schema) :
    Outcomes Eq (List.Forall₂ (LineExcept keys Texts)) (c.problems v) (c.problems w) := by
  have hfound := h _ hc
  simp only [CompiledSchema.problems, Schema.problems]
  refine (rel_mapM_text hfound).bind fun texts texts' htexts => ?_
  rw [mapM_steps hfound]
  cases hpaths : (c.schema.violations v).mapM Violation.steps with
  | error f => exact .error rfl
  | ok paths =>
    have hsorted : List.Forall₂ (EntryExcept keys Texts)
        ((paths.zip texts).mergeSort fun a b => pathLe a.1 b.1)
        ((paths.zip texts').mergeSort fun a b => pathLe a.1 b.1) :=
      rel_mergeSort (htexts paths hpaths) fun ha hb => by rw [ha.1, hb.1]
    refine .ok ?_
    rw [List.forall₂_map_left_iff, List.forall₂_map_right_iff]
    exact hsorted.imp fun _ _ he => he.line

/-- A document for values of a kind says nothing of values of the kind. -/
lemma blind_of_kind {name : String} {t : ValueType} (ht : ValueType.ofName? name = some t)
    (hv : t.matches' v = true) (hw : t.matches' w = true) :
    Blind keys Texts (Bundled.kind name) v w := by
  intro s hs
  rw [ofValue_kind ht] at hs
  cases hs
  have hnone {u : Value} (hu : t.matches' u = true) : (rules [.type [t]]).violations u = [] := by
    simp [violations, rulesViolations, ruleViolations, hu]
  rw [hnone hv, hnone hw]
  exact .nil

/-- What is wrong with a value that is not of a kind. -/
def kindViolation (t : ValueType) (v : Value) : Violation :=
  .here do return s!"{← v.shown?} is not of type {Text.quoted t.name}"

/-- Of any other value it tells what the value is. -/
lemma blind_of_not_kind {name : String} {t : ValueType} (ht : ValueType.ofName? name = some t)
    (hv : t.matches' v = false) (hw : t.matches' w = false)
    (htexts : TextExcept Texts (kindViolation t v).text (kindViolation t w).text) :
    Blind [] Texts (Bundled.kind name) v w := by
  intro s hs
  rw [ofValue_kind ht] at hs
  cases hs
  have hone {u : Value} (hu : t.matches' u = false) :
      (rules [.type [t]]).violations u = [kindViolation t u] := by
    simp [violations, rulesViolations, ruleViolations, hu, kindViolation]
  rw [hone hv, hone hw]
  exact .cons ⟨rfl, .inr ⟨rfl, htexts⟩⟩ .nil

/-- What is reported for one property. -/
lemma rel_propertyViolations {name : String} {s : Schema} (hs : ofValue document = .ok s)
    (hentries : Entries.SameExcept key Others entries entries')
    (hkey : name = key → ∀ v w, Others v w → Blind keys Texts document v w) :
    List.Forall₂ (Violation.SameExcept (key :: keys) Texts)
      (propertiesViolations entries [(name, s)]) (propertiesViolations entries' [(name, s)]) := by
  have hsame (found : List Violation) :
      List.Forall₂ (Violation.SameExcept (key :: keys) Texts) found found :=
    List.forall₂_same.2 fun x _ => .refl x
  simp only [propertiesViolations, List.append_nil]
  by_cases hname : name = key
  · subst hname
    have hget := hentries.get?
    revert hget
    generalize entries.get? (.str name) = v?
    generalize entries'.get? (.str name) = w?
    rintro (hvalues | _)
    · rcases hvalues with rfl | hothers
      · exact hsame _
      · rw [List.forall₂_map_left_iff, List.forall₂_map_right_iff]
        exact (hkey rfl _ _ hothers s hs).imp fun _ _ hx => hx.under name
    · exact hsame _
  · have hne : Scalar.str name ≠ .str key := fun h => hname (Scalar.str.inj h)
    rw [hentries.get?_of_ne hne]
    exact hsame _

/-- What is reported for all properties. -/
lemma rel_propertiesViolations {properties : List (String × Value)} {ss : List (String × Schema)}
    (hss : schemaEntries (named properties) = .ok ss)
    (hentries : Entries.SameExcept key Others entries entries')
    (hkey : ∀ p ∈ properties, p.1 = key → ∀ v w, Others v w → Blind keys Texts p.2 v w) :
    List.Forall₂ (Violation.SameExcept (key :: keys) Texts) (propertiesViolations entries ss)
      (propertiesViolations entries' ss) := by
  have hcons (es : Entries) (s : String × Schema) (rest : List (String × Schema)) :
      propertiesViolations es (s :: rest) =
        propertiesViolations es [s] ++ propertiesViolations es rest := by
    simp only [propertiesViolations, List.append_nil]
  rw [schemaEntries_eq_ok, named, List.forall₂_map_left_iff] at hss
  induction hss with
  | nil => exact .nil
  | @cons p s _ ss hs _ ih =>
    obtain ⟨hfirst, hrest⟩ := List.forall_mem_cons.1 hkey
    obtain ⟨name, s⟩ := s
    obtain ⟨hname, hs⟩ := hs
    obtain rfl := Scalar.str.inj hname
    rw [hcons entries, hcons entries']
    exact List.rel_append (rel_propertyViolations hs hentries hfirst) (ih hrest)

/-- A document for mappings that asks for nothing but its properties. -/
lemma blind_of_properties {properties : List (String × Value)}
    (h : ofValue document = (schemaEntries (named properties)).map fun ss =>
      .rules [.type [.object], .properties ss])
    (hentries : Entries.SameExcept key Others entries entries')
    (hkey : ∀ p ∈ properties, p.1 = key → ∀ v w, Others v w → Blind keys Texts p.2 v w) :
    Blind (key :: keys) Texts document (.map entries) (.map entries') := by
  intro s hs
  obtain ⟨ss, hss, rfl⟩ := map_eq_ok.1 (h.symm.trans hs)
  have hall (es : Entries) : (rules [.type [.object], .properties ss]).violations (.map es) =
      propertiesViolations es ss := by
    simp [violations, rulesViolations, ruleViolations, ValueType.matches']
  rw [hall, hall]
  exact rel_propertiesViolations hss hentries hkey

end Schema

end TaggedSuite
