import Mathlib.Data.List.Basic
import TaggedSuite.Proofs.Files.Places
import TaggedSuite.Proofs.Json.Values
import TaggedSuite.Value.Freeze

/-!
# Distinct keys

A mapping that was read has no two entries under the same key, and so do the mappings inside of it.
The readers see to that: the one for JSON inserts an entry when it has been read, the one for YAML
inserts those of a node one after the other. Where keys are distinct, the value under a key is the
same wherever one begins to look.
-/
namespace TaggedSuite

/-- A key that is a text is spelled in one way. -/
lemma Scalar.sameKey_str {key : Scalar} {s : String} :
    key.sameKey (.str s) = true ↔ key = .str s := by
  rw [sameKey_iff]
  constructor
  · intro h
    cases key with
    | num x =>
      simp only [keyForm] at h
      split at h <;> cases h
    | str s => exact h
    | _ => simp [keyForm] at h
  · rintro rfl
    rfl

namespace Entries

variable {entries base top : Entries} {key : Scalar} {v : Value} {e : Scalar × Value}

/-- No two entries are under the same key. -/
def HasDistinctKeys (entries : Entries) : Prop :=
  entries.Pairwise fun a b => a.1.sameKey b.1 = false

/-- Whether keys are distinct is seen from the keys alone. -/
lemma hasDistinctKeys_iff :
    entries.HasDistinctKeys ↔ (keys entries).Pairwise fun a b => a.sameKey b = false := by
  rw [keys, List.pairwise_map, HasDistinctKeys]

lemma mem_insert (h : e ∈ entries.insert key v) : e ∈ entries ∨ e.2 = v := by
  induction entries with
  | nil => exact .inr (by rw [List.mem_singleton.1 h])
  | cons d entries ih =>
    rw [insert] at h
    split_ifs at h with hsame
    · rcases List.mem_cons.1 h with rfl | h
      · exact .inr rfl
      · exact .inl (List.mem_cons_of_mem d h)
    · rcases List.mem_cons.1 h with rfl | h
      · exact .inl List.mem_cons_self
      · exact (ih h).imp_left (List.mem_cons_of_mem d)

lemma key_of_mem_insert (h : e ∈ entries.insert key v) :
    (∃ d ∈ entries, d.1 = e.1) ∨ e.1 = key := by
  induction entries with
  | nil => exact .inr (by rw [List.mem_singleton.1 h])
  | cons d entries ih =>
    rw [insert] at h
    split_ifs at h with hsame
    · rcases List.mem_cons.1 h with rfl | h
      · exact .inl ⟨d, List.mem_cons_self, rfl⟩
      · exact .inl ⟨e, List.mem_cons_of_mem d h, rfl⟩
    · rcases List.mem_cons.1 h with rfl | h
      · exact .inl ⟨d, List.mem_cons_self, rfl⟩
      · refine (ih h).imp_left ?_
        rintro ⟨c, hc, hkey⟩
        exact ⟨c, List.mem_cons_of_mem d hc, hkey⟩

lemma HasDistinctKeys.insert (h : entries.HasDistinctKeys) (key : Scalar) (v : Value) :
    (entries.insert key v).HasDistinctKeys := by
  induction entries with
  | nil => exact List.pairwise_singleton _ _
  | cons d entries ih =>
    obtain ⟨hfirst, hrest⟩ := List.pairwise_cons.1 h
    rw [Entries.insert]
    split_ifs with hsame
    · exact List.pairwise_cons.2 ⟨hfirst, hrest⟩
    · refine List.pairwise_cons.2 ⟨fun e he => ?_, ih hrest⟩
      rcases key_of_mem_insert he with ⟨c, hc, hkey⟩ | hkey
      · rw [← hkey]
        exact hfirst c hc
      · rw [hkey]
        exact Bool.eq_false_iff.2 hsame

lemma HasDistinctKeys.overlay (h : base.HasDistinctKeys) (top : Entries) :
    (base.overlay top).HasDistinctKeys := by
  induction top generalizing base with
  | nil => exact h
  | cons e top ih => exact ih (h.insert e.1 e.2)

lemma mem_overlay (h : e ∈ base.overlay top) : e ∈ base ∨ ∃ d ∈ top, d.2 = e.2 := by
  induction top generalizing base with
  | nil => exact .inl h
  | cons d top ih =>
    rcases ih h with h | ⟨c, hc, hvalue⟩
    · rcases mem_insert h with h | hvalue
      · exact .inl h
      · exact .inr ⟨d, List.mem_cons_self, hvalue.symm⟩
    · exact .inr ⟨c, List.mem_cons_of_mem d hc, hvalue⟩

/-- A mapping that is put together entry by entry has distinct keys. -/
lemma hasDistinctKeys_ofList (entries : List (Scalar × Value)) :
    (ofList entries).HasDistinctKeys :=
  HasDistinctKeys.overlay List.Pairwise.nil entries

lemma exists_of_get? (h : entries.get? key = some v) :
    ∃ e ∈ entries, e.1.sameKey key = true ∧ e.2 = v := by
  induction entries with
  | nil => cases h
  | cons e entries ih =>
    rw [get?] at h
    split_ifs at h with hsame
    · exact ⟨e, List.mem_cons_self, hsame, Option.some.inj h⟩
    · obtain ⟨d, hd, hkey⟩ := ih h
      exact ⟨d, List.mem_cons_of_mem e hd, hkey⟩

/-- An entry is found under its key. -/
lemma HasDistinctKeys.get?_of_mem (h : entries.HasDistinctKeys) (he : e ∈ entries) :
    entries.get? e.1 = some e.2 := by
  induction entries with
  | nil => cases he
  | cons d entries ih =>
    obtain ⟨hfirst, hrest⟩ := List.pairwise_cons.1 h
    rcases List.mem_cons.1 he with rfl | he
    · simp [get?]
    · rw [get?, hfirst e he]
      exact ih hrest he

lemma get?_freezeEntries (entries : Entries) (key : Scalar) :
    get? (freezeEntries entries) key = (entries.get? key).map Value.freeze := by
  induction entries with
  | nil => rfl
  | cons e entries ih =>
    obtain ⟨k, v⟩ := e
    rw [freezeEntries, get?, get?, ih]
    split_ifs <;> rfl

/-- Of two mappings the upper one decides about the keys that it has. -/
lemma HasDistinctKeys.get?_overlay (h : top.HasDistinctKeys) (base : Entries) (key : Scalar) :
    (base.overlay top).get? key = (top.get? key).or (base.get? key) := by
  induction top generalizing base with
  | nil => rfl
  | cons e top ih =>
    obtain ⟨hfirst, hrest⟩ := List.pairwise_cons.1 h
    rw [overlay_cons, ih hrest, get?_insert, get?]
    by_cases hsame : e.1.sameKey key = true
    · have hnone : get? top key = none := by
        cases hfound : get? top key with
        | none => rfl
        | some w =>
          obtain ⟨d, hd, hkey, -⟩ := exists_of_get? hfound
          have heq : e.1.sameKey d.1 = true :=
            Scalar.sameKey_iff.2
              ((Scalar.sameKey_iff.1 hsame).trans (Scalar.sameKey_iff.1 hkey).symm)
          rw [hfirst d hd] at heq
          contradiction
      simp [hsame, hnone]
    · simp [hsame]

end Entries

/-- All mappings in the value have distinct keys, and none of them is read-only. -/
inductive Value.IsKeyed : Value → Prop
  | scalar (s : Scalar) : IsKeyed (.scalar s)
  | set (members : List Scalar) : IsKeyed (.set members)
  | list {items : List Value} (h : ∀ v ∈ items, IsKeyed v) : IsKeyed (.list items)
  | tuple {items : List Value} (h : ∀ v ∈ items, IsKeyed v) : IsKeyed (.tuple items)
  | map {entries : Entries} (hkeys : entries.HasDistinctKeys) (h : ∀ e ∈ entries, IsKeyed e.2) :
    IsKeyed (.map entries)

namespace Value.IsKeyed

lemma distinct {entries : Entries} (h : IsKeyed (.map entries)) : entries.HasDistinctKeys := by
  cases h with
  | map hkeys _ => exact hkeys

lemma value {entries : Entries} {e : Scalar × Value} (h : IsKeyed (.map entries))
    (he : e ∈ entries) : IsKeyed e.2 := by
  cases h with
  | map _ hvalues => exact hvalues e he

end Value.IsKeyed

/-! ### JSON -/

namespace Json

lemma isHandedOn_isKeyed : IsHandedOn Value.IsKeyed where
  text s := .scalar _
  named _ := .scalar _
  number _ := .scalar _
  list h := .list h
  noEntries := .map .nil fun _ he => (List.not_mem_nil he).elim
  insert {acc key v} h hv := by
    refine .map (h.distinct.insert (.str key) v) fun e he => ?_
    rcases Entries.mem_insert he with he | rfl
    · exact h.value he
    · exact hv

lemma isKeyed_of_readChars {cs : List Char} {v : Value} (h : readChars cs = .ok v) : v.IsKeyed :=
  of_readChars isHandedOn_isKeyed h

end Json

/-! ### YAML -/

namespace Yaml.Node

variable {build : Node → Built} {nodes : List Node} {entries : List (Built × Built)}

lemma isKeyed_buildScalar (kind : Kind) (node : Node) : (buildScalar kind node).value.IsKeyed := by
  rw [buildScalar]
  cases node.text? with
  | none => exact .scalar _
  | some text =>
    dsimp only
    split
    · exact .scalar _
    · cases scalarOf kind text <;> exact .scalar _

/-- The entries of a mapping are put together one by one. -/
lemma isKeyed_pairsOf (h : ∀ e ∈ entries, e.2.value.IsKeyed) :
    Value.IsKeyed (.map (pairsOf entries)) := by
  refine .map (Entries.hasDistinctKeys_ofList _) fun e he => ?_
  rcases Entries.mem_overlay he with he | ⟨d, hd, hvalue⟩
  · cases he
  · obtain ⟨b, hb, hsome⟩ := List.mem_filterMap.1 hd
    obtain ⟨k, -, rfl⟩ := Option.map_eq_some_iff.1 hsome
    rw [← hvalue]
    exact h b hb

lemma isKeyed_buildEntries (h : ∀ node, (build node).value.IsKeyed)
    (nodes : List (Node × Node)) : ∀ e ∈ buildEntries build nodes, e.2.value.IsKeyed := by
  intro e he
  obtain ⟨d, -, rfl⟩ := List.mem_map.1 he
  exact h d.2

lemma isKeyed_buildPairs (h : ∀ node, (build node).value.IsKeyed) (nodes : List Node) :
    ∀ e ∈ buildPairs build nodes, e.1.value.IsKeyed ∧ e.2.value.IsKeyed := by
  induction nodes with
  | nil => simp [buildPairs]
  | cons node nodes ih =>
    unfold buildPairs
    split
    · contradiction
    · next heq =>
      cases heq
      exact List.forall_mem_cons.2 ⟨⟨h _, h _⟩, ih⟩
    · rw [List.forall_mem_singleton]
      exact ⟨.scalar _, .scalar _⟩

lemma isKeyed_build (n : Nat) (node : Node) : (Node.build n node).value.IsKeyed := by
  induction n generalizing node with
  | zero => exact .scalar _
  | succ n ih =>
    unfold Node.build
    split
    · refine .list fun v hv => ?_
      obtain ⟨b, hb, rfl⟩ := List.mem_map.1 hv
      obtain ⟨item, -, rfl⟩ := List.mem_map.1 hb
      exact ih item
    · refine .list fun v hv => ?_
      obtain ⟨e, he, rfl⟩ := List.mem_map.1 hv
      obtain ⟨hkey, hvalue⟩ := isKeyed_buildPairs ih _ e he
      refine .tuple fun w hw => ?_
      simp only [List.mem_cons, List.not_mem_nil, or_false] at hw
      rcases hw with rfl | rfl
      · exact hkey
      · exact hvalue
    · split
      · exact .scalar _
      · exact isKeyed_pairsOf (isKeyed_buildEntries ih _)
    · split
      · exact .scalar _
      · exact .set _
    · exact .scalar _
    · exact .scalar _
    · exact isKeyed_buildScalar _ _

lemma isKeyed_value {node : Node} {v : Value} (h : node.value = .ok v) : v.IsKeyed := by
  rw [Node.value, Built.result] at h
  split at h
  · cases h
    exact isKeyed_build _ node
  · cases h

end Yaml.Node

namespace Yaml

lemma isKeyed_of_read {s : String} {v : Value} (h : read s = .ok v) : v.IsKeyed := by
  rw [read] at h
  obtain ⟨node?, -, h⟩ := bind_eq_ok.1 h
  cases node? with
  | none =>
    cases h
    exact .scalar _
  | some node =>
    obtain ⟨⟨bare, names⟩, -, h⟩ := bind_eq_ok.1 h
    exact Node.isKeyed_value h

end Yaml

namespace SettingsFile

/-- All mappings in settings that were read have distinct keys. -/
lemma isKeyed_of_read {disk : Disk} {p : Path} {settings : Entries}
    (h : read disk p = .ok settings) : Value.IsKeyed (.map settings) := by
  obtain ⟨f, text, v, -, -, hparse, hsettings⟩ := read_eq_ok.1 h
  have hv : v.IsKeyed := by
    cases f with
    | yaml => exact Yaml.isKeyed_of_read (mapError_eq_ok.1 hparse)
    | json => exact Json.isKeyed_of_readChars (mapError_eq_ok.1 hparse)
  unfold settingsOf at hsettings
  split at hsettings
  · cases hsettings
    exact .map .nil fun _ he => (List.not_mem_nil he).elim
  · cases hsettings
    exact hv
  · cases hsettings

end SettingsFile

end TaggedSuite
