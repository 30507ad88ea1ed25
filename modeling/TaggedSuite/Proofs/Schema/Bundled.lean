import TaggedSuite.Proofs.Schema.Documents

/-!
# The bundled schemas

The bundled documents are schemas, and a registry without a directory of its own finds them whatever
is on disk. It refuses the settings that do not conform to them.
-/
namespace TaggedSuite

open Schema (IsSchema Conforms)

variable {disk : Disk} {name : String} {e : String × Value} {settings : Entries}

namespace Bundled

/-- The bundled documents by the names of their schemas. -/
def standard : List (String × Value) := [(baseName, base), (overlayName, overlay)]

/-! ### The documents -/

lemma isSchema_selection : ∀ p ∈ selectionProperties, IsSchema p.2 := by
  simp only [selectionProperties, List.forall_mem_cons]
  exact ⟨Schema.isSchema_kind rfl, Schema.isSchema_kind rfl, Schema.isSchema_kind rfl,
    Schema.isSchema_kind rfl, fun _ h => nomatch h⟩

lemma isSchema_target : ∀ p ∈ targetProperties, IsSchema p.2 := by
  simp only [targetProperties, List.forall_mem_cons]
  exact ⟨Schema.isSchema_kind rfl, Schema.isSchema_kind rfl, Schema.isSchema_kind rfl,
    Schema.isSchema_kind rfl, Schema.isSchema_kind rfl, fun _ h => nomatch h⟩

/-- The document of a number for each mode. -/
def modes : Value := record [("runMode", count), ("openMode", count)]

lemma isSchema_modes : IsSchema modes := by
  apply Schema.isSchema_record
  simp only [List.forall_mem_cons]
  exact ⟨Schema.isSchema_count, Schema.isSchema_count, fun _ h => nomatch h⟩

lemma ofValue_retries {s t : Schema} (hs : Schema.ofValue count = .ok s)
    (ht : Schema.ofValue modes = .ok t) :
    Schema.ofValue retries = .ok (.rules [.oneOf [s, t] [count, modes]]) := by
  have hschemas : Schema.schemas [count, modes] = .ok [s, t] := by
    simp [Schema.schemas, hs, ht, bind, Except.bind, pure, Except.pure]
  have hkeyword : Schema.keywordOf (.str "oneOf") (.list [count, modes]) = _ :=
    Schema.keywordOf_of_schemas (by decide) rfl (List.cons_ne_nil _ _)
  show Schema.ofValue (.map [(.str "oneOf", .list [count, modes])]) = _
  simp only [Schema.ofValue, Schema.keywords, hkeyword, hschemas]
  rfl

lemma isSchema_retries : IsSchema retries := by
  obtain ⟨s, hs⟩ := Schema.isSchema_count
  obtain ⟨t, ht⟩ := isSchema_modes
  exact ⟨_, ofValue_retries hs ht⟩

lemma isSchema_base : ∀ p ∈ baseProperties, IsSchema p.2 := by
  simp only [baseProperties, List.forall_mem_cons]
  exact ⟨Schema.isSchema_kind rfl, Schema.isSchema_count, Schema.isSchema_count,
    Schema.isSchema_count, Schema.isSchema_count, Schema.isSchema_count, isSchema_retries,
    Schema.isSchema_kind rfl, Schema.isSchema_record isSchema_selection, fun _ h => nomatch h⟩

lemma isSchema_overlay : ∀ p ∈ overlayProperties, IsSchema p.2 := by
  simp only [overlayProperties, List.forall_mem_cons]
  exact ⟨Schema.isSchema_kind rfl, Schema.isSchema_record
    (List.forall_mem_append.2 ⟨isSchema_target, isSchema_selection⟩), fun _ h => nomatch h⟩

/-- A mapping without any of the settings that a document speaks of conforms to it. -/
lemma conforms_of_free {title : String} {properties : List (String × Value)}
    (hschema : ∀ p ∈ properties, IsSchema p.2)
    (hfree : ∀ p ∈ properties, (Entries.get? settings (.str p.1)).isNone = true) :
    Conforms (document title properties) (.map settings) := by
  refine Schema.conforms_document.2 ⟨settings, rfl, fun p hp => ⟨hschema p hp, fun w hw => ?_⟩⟩
  have hnone := hfree p hp
  rw [hw] at hnone
  contradiction

lemma isSchema_of_standard (he : e ∈ standard) : IsSchema e.2 := by
  have hempty : Conforms e.2 (.map []) := by
    simp only [standard, List.mem_cons, List.not_mem_nil, or_false] at he
    rcases he with rfl | rfl
    · exact conforms_of_free isSchema_base fun _ _ => rfl
    · exact conforms_of_free isSchema_overlay fun _ _ => rfl
  obtain ⟨s, hs, -⟩ := hempty
  exact ⟨s, hs⟩

/-! ### The files -/

/-- The file of a bundled document is there on every disk. -/
lemma locate_below (hname : name ≠ "..") :
    locate disk (directory.below name) = some (directory.parts ++ [name]) := by
  simp [locate, Disk.locate, Disk.origin, Path.below, directory, Path.isAbsolute, Disk.follow,
    Disk.hasDirectory, Disk.step, hname]

lemma document?_of_standard (he : e ∈ standard) :
    document? disk (directory.below (e.1 ++ ".json")) = some e.2 := by
  simp only [standard, List.mem_cons, List.not_mem_nil, or_false] at he
  rcases he with rfl | rfl
  · rw [document?, locate_below (by decide)]
    rfl
  · rw [document?, locate_below (by decide)]
    rfl

end Bundled

namespace SchemaRegistry

variable {r : SchemaRegistry}

/-- The registry keeps to the bundled documents. -/
structure IsBundled (r : SchemaRegistry) : Prop where
  directory : r.directory = Bundled.directory
  compiled : ∀ e ∈ Bundled.standard, ∀ c, r.compiled.lookup e.1 = some c →
    Schema.ofValue e.2 = .ok c.schema

lemma isBundled_new : (ofDirectory? none).IsBundled := ⟨rfl, fun _ _ _ h => nomatch h⟩

lemma path_of_standard (h : r.directory = Bundled.directory) (he : e ∈ Bundled.standard) :
    r.path e.1 = Bundled.directory.below (e.1 ++ ".json") := by
  rw [path, h]
  simp only [Bundled.standard, List.mem_cons, List.not_mem_nil, or_false] at he
  rcases he with rfl | rfl <;> decide

lemma readDocument_of_standard (h : r.directory = Bundled.directory) (he : e ∈ Bundled.standard) :
    r.readDocument disk e.1 = .ok e.2 := by
  rw [readDocument, path_of_standard h he, Bundled.document?_of_standard he]

/-- The schema of a bundled document is the one that it writes. -/
lemma compile_of_standard {c : CompiledSchema} (h : r.directory = Bundled.directory)
    (he : e ∈ Bundled.standard) :
    r.compile disk e.1 = .ok c ↔ c.document = e.2 ∧ Schema.ofValue e.2 = .ok c.schema := by
  obtain ⟨document, schema⟩ := c
  simp only [compile, readDocument_of_standard h he, bind, Except.bind]
  cases Schema.ofValue e.2 with
  | error f => cases f <;> simp [throw, throwThe, MonadExceptOf.throw]
  | ok s => simp [pure, Except.pure, eq_comm]

/-- What a registry of the bundled documents finds. -/
lemma IsBundled.find (h : r.IsBundled) (disk : Disk) (name : String) :
    (r.find disk name).registry.IsBundled ∧
      ∀ e ∈ Bundled.standard, e.1 = name → ∀ c, (r.find disk name).result = .ok c →
        Schema.ofValue e.2 = .ok c.schema := by
  rw [SchemaRegistry.find]
  cases hlookup : r.compiled.lookup name with
  | some c =>
    refine ⟨h, fun e he hname d hd => ?_⟩
    cases hd
    exact h.compiled e he c (hname ▸ hlookup)
  | none =>
    cases hcompile : r.compile disk name with
    | error f => exact ⟨h, fun _ _ _ _ hd => nomatch hd⟩
    | ok c =>
      have hdocument : ∀ e ∈ Bundled.standard, e.1 = name →
          Schema.ofValue e.2 = .ok c.schema := by
        rintro e he rfl
        exact ((compile_of_standard h.directory he).1 hcompile).2
      refine ⟨⟨h.directory, fun e he d hd => ?_⟩, fun e he hname d hd => ?_⟩
      · by_cases hname : e.1 = name
        · have hc : c = d := by simpa [List.lookup_cons, hname] using hd
          exact hc ▸ hdocument e he hname
        · have hne : (e.1 == name) = false := beq_eq_false_iff_ne.2 hname
          rw [List.lookup_cons, hne] at hd
          exact h.compiled e he d hd
      · cases hd
        exact hdocument e he hname

/-- What it finds of the bundled documents does not depend on the disk. -/
lemma IsBundled.find_congr (h : r.IsBundled) (he : e ∈ Bundled.standard) (disk disk' : Disk) :
    r.find disk' e.1 = r.find disk e.1 := by
  simp only [SchemaRegistry.find, compile, readDocument_of_standard h.directory he]

/-- A registry of the bundled documents finds a bundled schema. -/
lemma IsBundled.exists_found (h : r.IsBundled) (disk : Disk) (he : e ∈ Bundled.standard)
    (hschema : IsSchema e.2) : ∃ c, (r.find disk e.1).result = .ok c := by
  rw [SchemaRegistry.find]
  cases r.compiled.lookup e.1 with
  | some c => exact ⟨c, rfl⟩
  | none =>
    obtain ⟨s, hs⟩ := hschema
    have hcompile : r.compile disk e.1 = .ok ⟨e.2, s⟩ :=
      (compile_of_standard h.directory he).2 ⟨rfl, hs⟩
    rw [hcompile]
    exact ⟨_, rfl⟩

/-- Settings that conform to a bundled document pass the check with it, and no others do. -/
lemma IsBundled.check_eq_ok {source : String} (h : r.IsBundled) (he : e ∈ Bundled.standard) :
    ((r.find disk e.1).result.bind fun c => check c e.1 source (.map settings)) = .ok () ↔
      Conforms e.2 (.map settings) := by
  have hfound := (h.find disk e.1).2 e he rfl
  constructor
  · intro hpassed
    cases hresult : (r.find disk e.1).result with
    | error f => simp [hresult, Except.bind] at hpassed
    | ok c =>
      rw [hresult] at hpassed
      exact ⟨c.schema, hfound c hresult, SchemaRegistry.check_eq_ok.1 hpassed⟩
  · rintro ⟨s, hs, haccepts⟩
    obtain ⟨c, hc⟩ := h.exists_found disk he ⟨s, hs⟩
    obtain rfl : c.schema = s := Except.ok.inj ((hfound c hc).symm.trans hs)
    rw [hc]
    exact SchemaRegistry.check_eq_ok.2 haccepts

end SchemaRegistry

end TaggedSuite
