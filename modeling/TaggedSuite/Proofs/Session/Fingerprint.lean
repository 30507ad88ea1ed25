import Mathlib.Data.List.Basic
import TaggedSuite.Session.Key
import TaggedSuite.Config.Basic

/-!
# Pairs with the same fingerprint

A fingerprint is a digest in hexadecimal digits of the two texts of a pair with a null character in
between. The digits tell the bytes of the digest, and the bytes of a text tell the text. So two
pairs have the same fingerprint only if their texts are joined alike or the digest collides, and
they are joined alike only if they are the same pair or the null character stands in an identifier.
-/
namespace TaggedSuite

variable {p q : Credentials} {s t : String} {actor? : Option String}

/-! ### Bytes and digits -/

/-- The loop puts the bytes that are left behind those that it has. -/
lemma toList_loop (bs : ByteArray) (i : Nat) (acc : List UInt8) :
    ByteArray.toList.loop bs i acc = acc.reverse ++ bs.data.toList.drop i := by
  fun_induction ByteArray.toList.loop bs i acc with
  | case1 i acc hlt ih =>
    have hlength : i < bs.data.toList.length := hlt
    have hfirst : bs.get! i = bs.data.toList[i] := getElem!_pos bs.data i hlt
    rw [ih, List.reverse_cons, List.append_assoc, List.singleton_append, hfirst,
      ← List.drop_eq_getElem_cons hlength]
  | case2 i acc hge =>
    have hlength : bs.data.toList.length ≤ i := Nat.le_of_not_lt hge
    rw [List.drop_eq_nil_of_le hlength, List.append_nil]

/-- A text is told by its bytes. -/
lemma toUTF8_toList_inj : s.toUTF8.toList = t.toUTF8.toList ↔ s = t := by
  constructor
  · intro h
    rw [ByteArray.toList, ByteArray.toList, toList_loop, toList_loop] at h
    exact String.toByteArray_inj.1 (ByteArray.ext (Array.toList_inj.1 h))
  · rintro rfl
    rfl

lemma digitChar_inj : ∀ m < 16, ∀ n < 16, Nat.digitChar m = Nat.digitChar n → m = n := by decide

/-- A byte is told by its two digits. -/
lemma hexByte_injective : Function.Injective hexByte := by
  intro b c h
  have hb := b.toNat_lt
  have hc := c.toNat_lt
  obtain ⟨hhigh, hlow⟩ := List.cons.inj h
  have hhigh := digitChar_inj _ (by omega) _ (by omega) hhigh
  have hlow := digitChar_inj _ (by omega) _ (by omega) (List.cons.inj hlow).1
  exact UInt8.toNat_inj.1 (by omega)

/-- Bytes are told by their digits. -/
lemma flatMap_hexByte_inj {bs cs : List UInt8} :
    bs.flatMap hexByte = cs.flatMap hexByte ↔ bs = cs := by
  constructor
  · intro h
    induction bs generalizing cs with
    | nil =>
      cases cs with
      | nil => rfl
      | cons c cs => cases h
    | cons b bs ih =>
      cases cs with
      | nil => cases h
      | cons c cs =>
        obtain ⟨hfirst, hrest⟩ := List.append_inj h rfl
        rw [hexByte_injective hfirst, ih hrest]
  · rintro rfl
    rfl

/-! ### Digests -/

/-- The first eight bytes of the digest of a message. -/
def truncatedDigest (message : List UInt8) : List UInt8 := (Sha256.digest message).take 8

/-- Different messages with the same truncated digest. -/
def Collide (message message' : List UInt8) : Prop :=
  message ≠ message' ∧ truncatedDigest message = truncatedDigest message'

/-! ### Pairs and their keys -/

/-- Two ways to join two lists with the same separator. -/
lemma append_cons_eq_iff {α : Type} {c : α} {xs ys xs' ys' : List α} :
    xs ++ c :: ys = xs' ++ c :: ys' ↔
      (xs = xs' ∧ ys = ys') ∨ (∃ zs, xs' = xs ++ c :: zs ∧ ys = zs ++ c :: ys') ∨
        ∃ zs, xs = xs' ++ c :: zs ∧ ys' = zs ++ c :: ys := by
  constructor
  · intro h
    rcases List.append_eq_append_iff.1 h with ⟨zs, rfl, hrest⟩ | ⟨zs, rfl, hrest⟩
    · cases zs with
      | nil => exact .inl ⟨(List.append_nil xs).symm, (List.cons.inj hrest).2⟩
      | cons z zs =>
        obtain ⟨rfl, rfl⟩ := List.cons.inj hrest
        exact .inr (.inl ⟨zs, rfl, rfl⟩)
    · cases zs with
      | nil => exact .inl ⟨List.append_nil xs', (List.cons.inj hrest).2.symm⟩
      | cons z zs =>
        obtain ⟨rfl, rfl⟩ := List.cons.inj hrest
        exact .inr (.inr ⟨zs, rfl, rfl⟩)
  · rintro (⟨rfl, rfl⟩ | ⟨zs, rfl, rfl⟩ | ⟨zs, rfl, rfl⟩) <;> simp

namespace Credentials

/-- The bytes that are digested for a pair. -/
def message (p : Credentials) : List UInt8 := (joinedCredentials p.identifier p.secret).toUTF8.toList

/-- Part of the first secret stands in the second identifier, and the null characters stand so that
both pairs are joined to one text. -/
def Shifted (p q : Credentials) : Prop :=
  ∃ s, q.identifier = p.identifier ++ "\x00" ++ s ∧ p.secret = s ++ "\x00" ++ q.secret

/-- The fingerprints do not tell the pairs apart: they are joined to one text, or the digest
collides. -/
def Confusable (p q : Credentials) : Prop :=
  Shifted p q ∨ Shifted q p ∨ Collide p.message q.message

/-- The separator stands in the identifier. -/
def hasSeparator (p : Credentials) : Bool := p.identifier.toList.contains '\x00'

/-- The key of a pair. -/
def key (p : Credentials) (actor? : Option String) : SessionKey :=
  .ofCredentials p.identifier p.secret actor?

/-- Whether the actor is named by a label and not by the identifier. -/
def isLabel : Option String → Bool
  | some label => label != ""
  | none => false

lemma toList_join (s t : String) : (s ++ "\x00" ++ t).toList = s.toList ++ '\x00' :: t.toList := by
  rw [String.toList_append, String.toList_append, List.append_assoc]
  rfl

lemma shifted_iff : Shifted p q ↔ ∃ cs, q.identifier.toList = p.identifier.toList ++ '\x00' :: cs ∧
    p.secret.toList = cs ++ '\x00' :: q.secret.toList := by
  constructor
  · rintro ⟨s, hidentifier, hsecret⟩
    exact ⟨s.toList, by rw [hidentifier, toList_join], by rw [hsecret, toList_join]⟩
  · rintro ⟨cs, hidentifier, hsecret⟩
    refine ⟨String.ofList cs, ?_, ?_⟩ <;> rw [← String.toList_inj, toList_join, String.toList_ofList]
    · exact hidentifier
    · exact hsecret

lemma Shifted.identifier_ne (h : Shifted p q) : p.identifier ≠ q.identifier := by
  intro hsame
  obtain ⟨cs, hidentifier, -⟩ := shifted_iff.1 h
  rw [hsame] at hidentifier
  exact absurd (List.self_eq_append_right.1 hidentifier) (List.cons_ne_nil _ _)

lemma Shifted.hasSeparator (h : Shifted p q) : q.hasSeparator = true := by
  obtain ⟨cs, hidentifier, -⟩ := shifted_iff.1 h
  rw [Credentials.hasSeparator, hidentifier]
  simp

lemma ext_toList (hidentifier : p.identifier.toList = q.identifier.toList)
    (hsecret : p.secret.toList = q.secret.toList) : p = q := by
  cases p
  cases q
  rw [mk.injEq]
  exact ⟨String.toList_inj.1 hidentifier, String.toList_inj.1 hsecret⟩

/-- Two pairs are joined to one text if they are the same pair or one of them is shifted. -/
lemma message_eq_iff : p.message = q.message ↔ p = q ∨ Shifted p q ∨ Shifted q p := by
  rw [message, message, toUTF8_toList_inj, joinedCredentials, joinedCredentials, ← String.toList_inj,
    toList_join, toList_join, append_cons_eq_iff, shifted_iff, shifted_iff]
  refine or_congr_left ⟨fun h => ext_toList h.1 h.2, ?_⟩
  rintro rfl
  exact ⟨rfl, rfl⟩

lemma fingerprint_eq_iff_digest :
    p.fingerprint = q.fingerprint ↔ truncatedDigest p.message = truncatedDigest q.message := by
  rw [fingerprint, fingerprint, TaggedSuite.fingerprint, TaggedSuite.fingerprint, shortDigest,
    shortDigest, String.ofList_inj, flatMap_hexByte_inj]
  rfl

theorem fingerprint_eq_iff : p.fingerprint = q.fingerprint ↔ p = q ∨ Confusable p q := by
  rw [Confusable, ← or_assoc (a := Shifted p q), ← or_assoc, ← message_eq_iff, Collide,
    fingerprint_eq_iff_digest]
  by_cases h : p.message = q.message
  · simp [h]
  · simp [h]

lemma key_actor_eq_iff :
    (p.key actor?).actor = (q.key actor?).actor ↔
      isLabel actor? = true ∨ p.identifier = q.identifier := by
  cases actor? with
  | none => simp [key, SessionKey.ofCredentials, isLabel]
  | some label => by_cases h : label = "" <;> simp [key, SessionKey.ofCredentials, isLabel, h]

theorem key_eq_iff : p.key actor? = q.key actor? ↔
    p = q ∨ Confusable p q ∧ (isLabel actor? = true ∨ p.identifier = q.identifier) := by
  have hkeys : p.key actor? = q.key actor? ↔
      (p.key actor?).actor = (q.key actor?).actor ∧ p.fingerprint = q.fingerprint := by
    unfold key SessionKey.ofCredentials
    rw [SessionKey.mk.injEq]
    exact Iff.rfl
  rw [hkeys, key_actor_eq_iff, fingerprint_eq_iff]
  constructor
  · rintro ⟨hactor, rfl | hconfusable⟩
    · exact .inl rfl
    · exact .inr ⟨hconfusable, hactor⟩
  · rintro (rfl | ⟨hconfusable, hactor⟩)
    · exact ⟨.inr rfl, .inl rfl⟩
    · exact ⟨hactor, .inr hconfusable⟩

/-- Pairs are told apart by their fingerprints if no identifier holds the separator and the digest
does not collide. -/
lemma Confusable.cases (h : Confusable p q) :
    p.hasSeparator = true ∨ q.hasSeparator = true ∨ Collide p.message q.message := by
  rcases h with h | h | h
  · exact .inr (.inl h.hasSeparator)
  · exact .inl h.hasSeparator
  · exact .inr (.inr h)

theorem key_eq_iff_of_separated (hdigest : ¬Collide p.message q.message)
    (hlabel : isLabel actor? = true → p.hasSeparator = false ∧ q.hasSeparator = false) :
    p.key actor? = q.key actor? ↔ p = q := by
  rw [key_eq_iff]
  refine or_iff_left ?_
  rintro ⟨hconfusable, hnamed⟩
  cases hactor : isLabel actor? with
  | true =>
    obtain ⟨hp, hq⟩ := hlabel hactor
    rcases hconfusable.cases with h | h | h
    · exact Bool.false_ne_true (hp.symm.trans h)
    · exact Bool.false_ne_true (hq.symm.trans h)
    · exact hdigest h
  | false =>
    have hsame := hnamed.resolve_left (Bool.eq_false_iff.1 hactor)
    rcases hconfusable with h | h | h
    · exact h.identifier_ne hsame
    · exact h.identifier_ne hsame.symm
    · exact hdigest h

end Credentials

end TaggedSuite
