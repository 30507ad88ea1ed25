import Mathlib.Data.List.Forall2
import TaggedSuite.Proofs.Except
import TaggedSuite.Schema.Registry

/-!
# What documents of schemas ask for

The bundled schemas are put together from few forms of documents: values of a kind, and records with
documents for some of their keys. Each form has one lemma that says which values conform to it. A
record asks for a mapping and for nothing of the keys that it does not mention.
-/
namespace TaggedSuite

/-- The violation can be told of. -/
structure Violation.IsTold (x : Violation) : Prop where
  text : ∃ text, x.text = .ok text
  steps : ∃ steps, x.steps = .ok steps

namespace CompiledSchema

variable {c : CompiledSchema} {v : Value}

/-- Nothing is wrong with a value that a schema accepts, and with no other one. -/
lemma problems_eq_nil_iff :
    c.problems v = .ok [] ↔ c.schema.accepts v = true := by
  simp only [problems, Schema.problems, Schema.accepts, List.isEmpty_iff, bind_eq_ok]
  constructor
  · rintro ⟨texts, htexts, paths, hpaths, hlines⟩
    have hcount := congrArg List.length (Except.ok.inj hlines)
    rw [List.length_map, List.length_mergeSort, List.length_zip,
      ← (mapM_eq_ok.1 htexts).length_eq, ← (mapM_eq_ok.1 hpaths).length_eq, Nat.min_self] at hcount
    exact List.length_eq_zero_iff.1 hcount
  · intro hnone
    rw [hnone]
    exact ⟨[], rfl, [], rfl, by simp [pure, Except.pure]⟩

/-- Violations that can all be told of come out as lines. -/
lemma exists_problems (h : ∀ x ∈ c.schema.violations v, x.IsTold) :
    ∃ lines, c.problems v = .ok lines := by
  obtain ⟨texts, htexts⟩ := exists_mapM_eq_ok fun x hx => (h x hx).text
  obtain ⟨paths, hpaths⟩ := exists_mapM_eq_ok fun x hx => (h x hx).steps
  rw [problems, Schema.problems, htexts]
  simp only [bind, Except.bind, hpaths]
  exact ⟨_, rfl⟩

end CompiledSchema

/-- A value passes the check with a schema that accepts it, and no other value does. -/
lemma SchemaRegistry.check_eq_ok {c : CompiledSchema} {name source : String} {v : Value} :
    check c name source v = .ok () ↔ c.schema.accepts v = true := by
  rw [← CompiledSchema.problems_eq_nil_iff, check]
  cases c.problems v with
  | error f => simp
  | ok lines => cases lines <;> simp

namespace Schema

variable {key : String} {v : Value} {entries : Entries} {rs : List Rule}

/-! ### Keywords -/

lemma keywordName_str (h : key ∉ beyondKeywords) : keywordName (.str key) = .ok key := by
  simp [keywordName, nameOf, h, bind, Except.bind, pure, Except.pure]

/-- A keyword that takes no schema stands for itself. -/
lemma keywordOf_of_shape (shape : Shape) (hkey : key ∉ beyondKeywords)
    (h : shapes.lookup key = some shape) (hv : hasShape shape v = true) :
    keywordOf (.str key) v = .ok ⟨key, v, []⟩ := by
  rw [keywordOf.eq_def, keywordName_str hkey]
  cases shape <;> simp_all [hasShape, bind, Except.bind, pure, Except.pure]

/-- A keyword with schemas under keys stands for these schemas. -/
lemma keywordOf_of_entries (hkey : key ∉ beyondKeywords)
    (h : shapes.lookup key = some .schemaEntries) :
    keywordOf (.str key) (.map entries) =
      (schemaEntries entries).map fun ss => ⟨key, .map entries, ss⟩ := by
  rw [keywordOf.eq_def, keywordName_str hkey]
  simp only [bind, Except.bind, h]
  cases schemaEntries entries <;> rfl

/-- A keyword with a list of schemas stands for these schemas. -/
lemma keywordOf_of_schemas {items : List Value} (hkey : key ∉ beyondKeywords)
    (h : shapes.lookup key = some .schemas) (hsome : items ≠ []) :
    keywordOf (.str key) (.list items) = (schemas items).map fun ss =>
      ⟨key, .list items, ss.map fun s => ("", s)⟩ := by
  rw [keywordOf.eq_def, keywordName_str hkey]
  simp only [bind, Except.bind, h, List.isEmpty_eq_false_iff.2 hsome]
  cases schemas items <;> rfl

lemma schemaEntries_eq_ok {ss : List (String × Schema)} :
    schemaEntries entries = .ok ss ↔
      List.Forall₂ (fun e s => e.1 = .str s.1 ∧ ofValue e.2 = .ok s.2) entries ss := by
  induction entries generalizing ss with
  | nil => simp [schemaEntries, eq_comm]
  | cons e entries ih =>
    obtain ⟨key, v⟩ := e
    have hname (name : String) : nameOf key = .ok name ↔ key = .str name := by
      cases key <;> simp [nameOf]
    simp only [schemaEntries, bind_eq_ok, hname, ih]
    constructor
    · rintro ⟨name, rfl, s, hs, rest, hrest, hss⟩
      cases hss
      exact .cons ⟨rfl, hs⟩ hrest
    · intro hss
      obtain ⟨s, rest, ⟨hkey, hs⟩, hrest, rfl⟩ := List.forall₂_cons_left_iff.1 hss
      exact ⟨s.1, hkey, s.2, hs, rest, hrest, rfl⟩

/-! ### Rules -/

lemma accepts_rules : (rules rs).accepts v = true ↔ ∀ r ∈ rs, ruleViolations v r = [] := by
  rw [accepts, List.isEmpty_iff, violations]
  induction rs with
  | nil => simp [rulesViolations]
  | cons r rs ih => simp [rulesViolations, ih]

lemma ruleViolations_type {ts : List ValueType} :
    ruleViolations v (.type ts) = [] ↔ ∃ t ∈ ts, t.matches' v = true := by
  rw [ruleViolations, ← List.any_eq_true]
  split_ifs with h <;> simp [h]

lemma ruleViolations_properties {ss : List (String × Schema)} :
    ruleViolations (.map entries) (.properties ss) = [] ↔
      ∀ s ∈ ss, ∀ w, Entries.get? entries (.str s.1) = some w → s.2.accepts w = true := by
  rw [ruleViolations]
  induction ss with
  | nil => simp [propertiesViolations]
  | cons s ss ih =>
    rw [propertiesViolations, List.append_eq_nil_iff, ih, List.forall_mem_cons]
    cases Entries.get? entries (.str s.1) with
    | none => simp
    | some w => simp [accepts, List.isEmpty_iff]

/-! ### Forms of documents -/

/-- The document is not refused. -/
def IsSchema (document : Value) : Prop := ∃ s, ofValue document = .ok s

/-- The document is a schema, and the value is valid by it. -/
def Conforms (document v : Value) : Prop := ∃ s, ofValue document = .ok s ∧ s.accepts v = true

lemma keywordOf_type (name : String) {t : ValueType} (h : ValueType.ofName? name = some t) :
    keywordOf (.str "type") (.str name) = .ok ⟨"type", .str name, []⟩ :=
  keywordOf_of_shape .typeNames (by decide) rfl (by simp [hasShape, typeNames?, h])

lemma ofValue_kind {name : String} {t : ValueType} (h : ValueType.ofName? name = some t) :
    ofValue (Bundled.kind name) = .ok (.rules [.type [t]]) := by
  show ofValue (.map [(.str "type", .str name)]) = _
  simp only [ofValue, keywords, keywordOf_type name h]
  simp [rulesOf, Keyword.rule?, typeNames?, h, bind, Except.bind, pure, Except.pure]

/-- What conforms to the document of a kind is a value of the kind. -/
lemma conforms_kind {name : String} {t : ValueType} (h : ValueType.ofName? name = some t) :
    Conforms (Bundled.kind name) v ↔ t.matches' v = true := by
  simp [Conforms, ofValue_kind h, accepts_rules, ruleViolations_type]

lemma isSchema_kind {name : String} {t : ValueType} (h : ValueType.ofName? name = some t) :
    IsSchema (Bundled.kind name) :=
  ⟨_, ofValue_kind h⟩

lemma ofValue_count :
    ofValue Bundled.count = .ok (.rules [.type [.integer], .bound .minimum (.int 0)]) := by
  have hminimum : keywordOf (.str "minimum") (.int 0) = .ok ⟨"minimum", .int 0, []⟩ :=
    keywordOf_of_shape .number (by decide) rfl (by decide)
  show ofValue (.map [(.str "type", .str "integer"), (.str "minimum", .int 0)]) = _
  simp only [ofValue, keywords, keywordOf_type "integer" rfl, hminimum]
  rfl

lemma isSchema_count : IsSchema Bundled.count := ⟨_, ofValue_count⟩

/-- The documents of properties under their keys. -/
def named (properties : List (String × Value)) : Entries := properties.map fun p => (.str p.1, p.2)

lemma keywordOf_properties (properties : List (String × Value)) :
    keywordOf (.str "properties") (Bundled.fields properties) =
      (schemaEntries (named properties)).map fun ss =>
        ⟨"properties", Bundled.fields properties, ss⟩ :=
  keywordOf_of_entries (by decide) rfl

lemma ofValue_record (properties : List (String × Value)) :
    ofValue (Bundled.record properties) =
      (schemaEntries (named properties)).map fun ss =>
        .rules [.type [.object], .properties ss] := by
  show ofValue (.map [(.str "type", .str "object"),
    (.str "properties", Bundled.fields properties)]) = _
  simp only [ofValue, keywords, keywordOf_type "object" rfl, keywordOf_properties]
  cases schemaEntries (named properties) <;> rfl

lemma ofValue_document (title : String) (properties : List (String × Value)) :
    ofValue (Bundled.document title properties) =
      (schemaEntries (named properties)).map fun ss =>
        .rules [.type [.object], .properties ss] := by
  have htext (key s : String) (hkey : key ∉ beyondKeywords)
      (h : shapes.lookup key = some .text) :
      keywordOf (.str key) (.str s) = .ok ⟨key, .str s, []⟩ :=
    keywordOf_of_shape .text hkey h rfl
  show ofValue (.map [(.str "$schema", .str "http://json-schema.org/draft-07/schema#"),
    (.str "title", .str title), (.str "type", .str "object"),
    (.str "properties", Bundled.fields properties)]) = _
  simp only [ofValue, keywords, htext "$schema" _ (by decide) rfl, htext "title" _ (by decide) rfl,
    keywordOf_type "object" rfl, keywordOf_properties]
  cases schemaEntries (named properties) <;> rfl

/-- Documents for the properties of a mapping let it pass if each property that is there conforms
to its document. -/
lemma properties_accept {properties : List (String × Value)} :
    (∃ ss, schemaEntries (named properties) = .ok ss ∧
      ∀ s ∈ ss, ∀ w, Entries.get? entries (.str s.1) = some w → s.2.accepts w = true) ↔
    ∀ p ∈ properties, IsSchema p.2 ∧
      ∀ w, Entries.get? entries (.str p.1) = some w → Conforms p.2 w := by
  induction properties with
  | nil => simp [named, schemaEntries]
  | cons p properties ih =>
    rw [List.forall_mem_cons, ← ih, named, List.map_cons, ← named]
    constructor
    · rintro ⟨ss, hss, haccepts⟩
      rw [schemaEntries_eq_ok, List.forall₂_cons_left_iff] at hss
      obtain ⟨s, rest, ⟨hname, hs⟩, hrest, rfl⟩ := hss
      have hname : s.1 = p.1 := (Scalar.str.inj hname).symm
      obtain ⟨hfirst, hothers⟩ := List.forall_mem_cons.1 haccepts
      refine ⟨⟨⟨s.2, hs⟩, fun w hw => ⟨s.2, hs, hfirst w ?_⟩⟩, rest, ?_, hothers⟩
      · rw [hname]
        exact hw
      · exact schemaEntries_eq_ok.2 hrest
    · rintro ⟨⟨⟨s, hs⟩, hfirst⟩, rest, hrest, hothers⟩
      refine ⟨(p.1, s) :: rest, ?_, List.forall_mem_cons.2 ⟨fun w hw => ?_, hothers⟩⟩
      · rw [schemaEntries_eq_ok] at hrest ⊢
        exact .cons ⟨rfl, hs⟩ hrest
      · obtain ⟨t, ht, haccepts⟩ := hfirst w hw
        obtain rfl := Except.ok.inj (hs.symm.trans ht)
        exact haccepts

lemma isSchema_record {properties : List (String × Value)}
    (h : ∀ p ∈ properties, IsSchema p.2) : IsSchema (Bundled.record properties) := by
  have hnone : ∀ p ∈ properties, IsSchema p.2 ∧
      ∀ w, Entries.get? [] (.str p.1) = some w → Conforms p.2 w :=
    fun p hp => ⟨h p hp, fun _ hw => nomatch hw⟩
  obtain ⟨ss, hss, -⟩ := properties_accept.2 hnone
  exact ⟨_, by rw [ofValue_record, hss]; rfl⟩

/-- What a document for mappings lets pass: a mapping each of whose properties conforms to its own
document. -/
lemma conforms_of_properties {document : Value} {properties : List (String × Value)}
    (h : ofValue document = (schemaEntries (named properties)).map fun ss =>
      .rules [.type [.object], .properties ss]) :
    Conforms document v ↔ ∃ entries, v = .map entries ∧ ∀ p ∈ properties, IsSchema p.2 ∧
      ∀ w, Entries.get? entries (.str p.1) = some w → Conforms p.2 w := by
  have hobject : ValueType.object.matches' v = true ↔ ∃ entries, v = .map entries := by
    cases v <;> simp [ValueType.matches']
  constructor
  · rintro ⟨s, hs, haccepts⟩
    obtain ⟨ss, hss, rfl⟩ := map_eq_ok.1 (h.symm.trans hs)
    rw [accepts_rules, List.forall_mem_cons, List.forall_mem_singleton,
      ruleViolations_type] at haccepts
    obtain ⟨⟨t, ht, hmatches⟩, hproperties⟩ := haccepts
    obtain rfl := List.mem_singleton.1 ht
    obtain ⟨entries, rfl⟩ := hobject.1 hmatches
    exact ⟨entries, rfl, properties_accept.1 ⟨ss, hss, ruleViolations_properties.1 hproperties⟩⟩
  · rintro ⟨entries, rfl, hproperties⟩
    obtain ⟨ss, hss, haccepts⟩ := properties_accept.2 hproperties
    refine ⟨.rules [.type [.object], .properties ss], by rw [h, hss]; rfl, ?_⟩
    rw [accepts_rules, List.forall_mem_cons, List.forall_mem_singleton]
    exact ⟨rfl, ruleViolations_properties.2 haccepts⟩

lemma conforms_record {properties : List (String × Value)} :
    Conforms (Bundled.record properties) v ↔ ∃ entries, v = .map entries ∧
      ∀ p ∈ properties, IsSchema p.2 ∧
        ∀ w, Entries.get? entries (.str p.1) = some w → Conforms p.2 w :=
  conforms_of_properties (ofValue_record properties)

lemma conforms_document {title : String} {properties : List (String × Value)} :
    Conforms (Bundled.document title properties) v ↔ ∃ entries, v = .map entries ∧
      ∀ p ∈ properties, IsSchema p.2 ∧
        ∀ w, Entries.get? entries (.str p.1) = some w → Conforms p.2 w :=
  conforms_of_properties (ofValue_document title properties)

end Schema

end TaggedSuite
