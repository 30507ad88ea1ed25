import TaggedSuite.Json.Reader
import TaggedSuite.Proofs.Except

/-!
# What is read from JSON

The reader puts values together from named values, numbers and texts, and from lists and mappings of
what it has read so far. What holds of the former and is handed on to the latter holds of every
value that is read.
-/
namespace TaggedSuite.Json

variable {P : Value → Prop} {fuel : Nat} {cs rest : List Char} {v : Value}

/-- What is handed on by the steps in which a value is put together. -/
structure IsHandedOn (P : Value → Prop) : Prop where
  text : ∀ s, P (.str s)
  named : ∀ {cs s rest}, named? cs = some (s, rest) → P (.scalar s)
  number : ∀ {cs s rest}, Json.number cs = .ok (s, rest) → P (.scalar s)
  list : ∀ {items : List Value}, (∀ v ∈ items, P v) → P (.list items)
  noEntries : P (.map [])
  insert : ∀ {acc : Entries} {key : String} {v : Value}, P (.map acc) → P v →
    P (.map (acc.insert (.str key) v))

/-- What the functions of the reader give with so much fuel. -/
structure Gives (P : Value → Prop) (fuel : Nat) : Prop where
  value : ∀ {cs v rest}, Json.value fuel cs = .ok (v, rest) → P v
  items : ∀ {acc cs v rest}, (∀ w ∈ acc, P w) → Json.items fuel acc cs = .ok (v, rest) → P v
  fields : ∀ {acc cs v rest}, P (.map acc) → Json.fields fuel acc cs = .ok (v, rest) → P v

lemma gives_zero : Gives P 0 where
  value h := by simp [Json.value] at h
  items _ h := by simp [Json.items] at h
  fields _ h := by simp [Json.fields] at h

lemma gives_succ (hP : IsHandedOn P) (ih : Gives P fuel) : Gives P (fuel + 1) where
  value {cs v rest} h := by
    unfold Json.value at h
    split at h
    · simp only [bind_eq_ok, pure, Except.pure, Except.ok.injEq, Prod.mk.injEq] at h
      obtain ⟨_, -, rfl, -⟩ := h
      exact hP.text _
    · split at h
      · cases h
        exact hP.list fun _ hw => (List.not_mem_nil hw).elim
      · exact ih.items (fun _ hw => (List.not_mem_nil hw).elim) h
    · split at h
      · cases h
        exact hP.noEntries
      · exact ih.fields hP.noEntries h
    · split at h
      · next hnamed =>
        cases h
        exact hP.named hnamed
      · obtain ⟨_, hnumber, h⟩ := bind_eq_ok.1 h
        cases h
        exact hP.number hnumber
  items {acc cs v rest} hacc h := by
    rw [Json.items] at h
    simp only [bind_eq_ok] at h
    obtain ⟨⟨w, after⟩, hw, h⟩ := h
    have hmore : ∀ u ∈ w :: acc, P u := List.forall_mem_cons.2 ⟨ih.value hw, hacc⟩
    split at h
    · cases h
      exact hP.list fun u hu => hmore u (List.mem_reverse.1 hu)
    · exact ih.items hmore h
    · cases h
  fields {acc cs v rest} hacc h := by
    unfold Json.fields at h
    split at h
    · simp only [bind_eq_ok] at h
      obtain ⟨⟨name, after⟩, -, h⟩ := h
      split at h
      · simp only [bind_eq_ok] at h
        obtain ⟨⟨w, behind⟩, hw, h⟩ := h
        have hmore : P (.map (Entries.insert acc (.str name) w)) := hP.insert hacc (ih.value hw)
        split at h
        · cases h
          exact hmore
        · exact ih.fields hmore h
        · cases h
      · cases h
    · cases h

lemma gives (hP : IsHandedOn P) (fuel : Nat) : Gives P fuel := by
  induction fuel with
  | zero => exact gives_zero
  | succ fuel ih => exact gives_succ hP ih

/-- What the steps of reading hand on holds of what is read. -/
lemma of_readChars (hP : IsHandedOn P) (h : readChars cs = .ok v) : P v := by
  rw [readChars] at h
  split_ifs at h
  · cases h
  · obtain ⟨⟨w, after⟩, hw, h⟩ := bind_eq_ok.1 h
    dsimp only at h
    split at h
    · cases h
      exact (gives hP _).value hw
    · cases h

end TaggedSuite.Json
