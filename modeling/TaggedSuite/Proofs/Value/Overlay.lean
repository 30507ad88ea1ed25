import TaggedSuite.Proofs.Value.Keys

/-!
# Mappings laid over one another

Laying a mapping over another one keeps the keys of the lower one in their places, appends the new
ones, and lets the upper one decide about the values. As a mapping with distinct keys is known from
its keys in order and the value under each of them, this says all about the result, and the laws of
laying mappings over one another follow: a mapping covers one that has the same keys, and three
mappings can be put together from either end.
-/
namespace TaggedSuite.Entries

variable {entries bottom middle top whole whole' : Entries} {key other : Scalar} {v : Value}

/-- The mapping that a mapping gives when it is laid over another one. -/
structure IsOverlay (bottom top whole : Entries) : Prop where
  keys : whole.keys = bottom.keys ++ top.keys.filter fun key => !bottom.contains key
  get? : ∀ key, whole.get? key = (top.get? key).or (bottom.get? key)

/-! ### Keys and the values under them -/

lemma keys_cons (e : Scalar × Value) (entries : Entries) :
    keys (e :: entries) = e.1 :: keys entries := rfl

lemma contains_cons (e : Scalar × Value) (entries : Entries) (key : Scalar) :
    contains (e :: entries) key = (e.1.sameKey key || contains entries key) := by
  rw [contains, Entries.get?, contains]
  cases e.1.sameKey key <;> rfl

lemma contains_eq_any (entries : Entries) (key : Scalar) :
    entries.contains key = entries.keys.any fun k => k.sameKey key := by
  induction entries with
  | nil => rfl
  | cons e entries ih => rw [contains_cons, keys_cons, List.any_cons, ih]

lemma contains_congr (h : key.sameKey other = true) (entries : Entries) :
    entries.contains key = entries.contains other := by
  have hsame : ∀ k : Scalar, k.sameKey key = k.sameKey other := by
    intro k
    rw [Bool.eq_iff_iff, Scalar.sameKey_iff, Scalar.sameKey_iff, Scalar.sameKey_iff.1 h]
  simp only [contains_eq_any, hsame]

lemma contains_insert :
    (entries.insert key v).contains other = (key.sameKey other || entries.contains other) := by
  rw [contains, get?_insert, contains]
  cases key.sameKey other <;> rfl

lemma keys_insert (entries : Entries) (key : Scalar) (v : Value) :
    (entries.insert key v).keys =
      if entries.contains key then entries.keys else entries.keys ++ [key] := by
  induction entries with
  | nil => rfl
  | cons e entries ih =>
    rw [insert, contains_cons]
    by_cases hsame : e.1.sameKey key = true
    · simp [hsame, keys_cons]
    · simp only [hsame, Bool.false_eq_true, if_false, keys_cons, ih, Bool.false_or]
      by_cases hfound : contains entries key = true
      · rw [if_pos hfound, if_pos hfound]
      · rw [if_neg hfound, if_neg hfound, List.cons_append]

/-- The keys of an overlay are those below and then the new ones. -/
lemma HasDistinctKeys.keys_overlay (h : top.HasDistinctKeys) (bottom : Entries) :
    (bottom.overlay top).keys =
      bottom.keys ++ top.keys.filter fun key => !bottom.contains key := by
  induction top generalizing bottom with
  | nil => exact (List.append_nil _).symm
  | cons e top ih =>
    obtain ⟨hfirst, hrest⟩ := List.pairwise_cons.1 h
    have hnew : ∀ key ∈ keys top,
        (!(bottom.insert e.1 e.2).contains key) = !bottom.contains key := by
      intro key hkey
      obtain ⟨d, hd, rfl⟩ := List.mem_map.1 hkey
      rw [contains_insert, hfirst d hd, Bool.false_or]
    rw [overlay_cons, ih hrest, List.filter_congr hnew, keys_insert, keys_cons, List.filter_cons]
    by_cases hold : bottom.contains e.1 = true
    · simp [hold]
    · simp [hold]

lemma HasDistinctKeys.isOverlay (h : top.HasDistinctKeys) (bottom : Entries) :
    IsOverlay bottom top (bottom.overlay top) :=
  ⟨h.keys_overlay bottom, h.get?_overlay bottom⟩

/-- A mapping with distinct keys is known from its keys in order and the values under them. -/
lemma HasDistinctKeys.ext (h : whole.HasDistinctKeys) (hkeys : whole.keys = whole'.keys)
    (hvalues : ∀ key ∈ whole.keys, whole.get? key = whole'.get? key) : whole = whole' := by
  induction whole generalizing whole' with
  | nil => exact (List.map_eq_nil_iff.1 hkeys.symm).symm
  | cons e rest ih =>
    cases whole' with
    | nil => cases hkeys
    | cons d rest' =>
      obtain ⟨key, v⟩ := e
      obtain ⟨key', w⟩ := d
      obtain ⟨hkey, hrestKeys⟩ := List.cons.inj hkeys
      obtain rfl : key = key' := hkey
      obtain ⟨hfirst, hrest⟩ := List.pairwise_cons.1 h
      have hvalue : v = w := by simpa [Entries.get?] using hvalues key List.mem_cons_self
      rw [hvalue, ih hrest hrestKeys]
      intro other hother
      obtain ⟨d, hd, rfl⟩ := List.mem_map.1 hother
      have hlater := hvalues d.1 (List.mem_cons_of_mem key hother)
      rwa [Entries.get?, Entries.get?, hfirst d hd] at hlater

/-- What a mapping has is told by its keys, so new keys add what the upper mapping has. -/
lemma contains_of_keys (h : whole.keys = bottom.keys ++ top.keys.filter fun k => !bottom.contains k)
    (key : Scalar) : whole.contains key = (bottom.contains key || top.contains key) := by
  rw [contains_eq_any whole, h, List.any_append, ← contains_eq_any, List.any_filter]
  cases hbottom : bottom.contains key with
  | true => rfl
  | false =>
    rw [Bool.false_or, Bool.false_or, contains_eq_any]
    refine List.any_congr rfl fun k => ?_
    by_cases hsame : k.sameKey key = true
    · rw [contains_congr hsame, hbottom]
      rfl
    · rw [Bool.eq_false_iff.2 hsame, Bool.and_false]

/-! ### The laws -/

/-- A mapping has all of its keys. -/
lemma filter_keys_self (entries : Entries) :
    (entries.keys.filter fun key => !entries.contains key) = [] := by
  rw [List.filter_eq_nil_iff]
  intro key hkey
  have hfound : entries.contains key = true := by
    rw [contains_eq_any]
    exact List.any_eq_true.2 ⟨key, hkey, Scalar.sameKey_self key⟩
  simp [hfound]

/-- A mapping covers one that has the same keys. -/
lemma HasDistinctKeys.overlay_of_keys (h : top.HasDistinctKeys) (hkeys : top.keys = bottom.keys) :
    bottom.overlay top = top := by
  have hwhole := h.isOverlay bottom
  have hsame : (bottom.overlay top).keys = top.keys := by
    rw [hwhole.keys, hkeys, filter_keys_self, List.append_nil]
  refine HasDistinctKeys.ext ?_ hsame fun key hkey => ?_
  · rw [hasDistinctKeys_iff, hsame, ← hasDistinctKeys_iff]
    exact h
  · have hfound : top.contains key = true := by
      rw [contains_eq_any]
      exact List.any_eq_true.2 ⟨key, hsame ▸ hkey, Scalar.sameKey_self key⟩
    obtain ⟨v, hv⟩ := Option.isSome_iff_exists.1 hfound
    rw [hwhole.get?, hv, Option.some_or]

/-- Over no mapping a mapping stands as it is. -/
lemma HasDistinctKeys.nil_overlay (h : top.HasDistinctKeys) : Entries.overlay [] top = top := by
  refine HasDistinctKeys.ext (HasDistinctKeys.overlay .nil top) ?_ fun key _ => ?_
  · rw [h.keys_overlay]
    exact List.filter_true _
  · rw [h.get?_overlay]
    exact Option.or_none

/-- The keys of three mappings, put together from either end. -/
lemma keys_assoc {lower upper : Entries}
    (hlower : lower.keys = bottom.keys ++ middle.keys.filter fun key => !bottom.contains key)
    (hupper : upper.keys = middle.keys ++ top.keys.filter fun key => !middle.contains key) :
    (lower.keys ++ top.keys.filter fun key => !lower.contains key) =
      bottom.keys ++ upper.keys.filter fun key => !bottom.contains key := by
  have hnew : (fun key => !lower.contains key) =
      fun key => !bottom.contains key && !middle.contains key := by
    funext key
    rw [contains_of_keys hlower, Bool.not_or]
  rw [hnew, hlower, hupper, List.filter_append, List.filter_filter, List.append_assoc]

/-- Three mappings can be laid over one another from either end. -/
lemma HasDistinctKeys.overlay_assoc (hbottom : bottom.HasDistinctKeys)
    (hmiddle : middle.HasDistinctKeys) (htop : top.HasDistinctKeys) :
    (bottom.overlay middle).overlay top = bottom.overlay (middle.overlay top) := by
  have hlower := hmiddle.isOverlay bottom
  have hupper := htop.isOverlay middle
  have hleft := htop.isOverlay (bottom.overlay middle)
  have hright := (hmiddle.overlay top).isOverlay bottom
  refine HasDistinctKeys.ext ((hbottom.overlay middle).overlay top) ?_ fun key _ => ?_
  · rw [hleft.keys, hright.keys]
    exact keys_assoc hlower.keys hupper.keys
  · rw [hleft.get?, hlower.get?, hright.get?, hupper.get?, Option.or_assoc]

end TaggedSuite.Entries
