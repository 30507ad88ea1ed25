import TaggedSuite.Proofs.Session.Accounting
import TaggedSuite.Proofs.Session.Cache.Provenance
import TaggedSuite.Proofs.Session.Fingerprint

/-!
# Sessions of different pairs

A session is handed only to those who ask for its key, and keys of different pairs are different
unless the pairs are confusable. So nobody gets the session of another pair of identifier and secret
as long as the digest does not collide and the separator stands in no identifier.
-/
namespace TaggedSuite.Session

open Cache (State Action requests)
open Credentials (Confusable isLabel)

/-- The pair that is posted. -/
def Post.credentials (post : Post) : Credentials := ⟨post.identifier, post.secret⟩

section
variable {η : Type} [Closable η] {as : List (Action η)} {t : State η} {i : Nat} {h : η}
  {p q : Credentials} {actor? other? : Option String}

lemma eq_or_confusable_of_key (hkey : p.key actor? = q.key other?) : p = q ∨ Confusable p q :=
  Credentials.fingerprint_eq_iff.1 (congrArg SessionKey.fingerprint hkey)

/-- The handle that is returned for a pair was created for the same pair, or for one that it is
confused with. -/
lemma exists_creation_for_pair (has : State.empty.performAll as = some t)
    (hresult : t.result? i = some (.handle h))
    (hasked : (requests as)[i]? = some (.getOrCreate (.session (p.key actor?)))) :
    ∃ j, .finish j (.ok h) ∈ as ∧ (requests as)[j]? = (requests as)[i]? ∧
      ∀ q other?, (requests as)[j]? = some (.getOrCreate (.session (q.key other?))) →
        q = p ∨ Confusable q p := by
  obtain ⟨key, j, key', hi, hj, hsame, hfinish⟩ := Cache.exists_creation_of_handle has hresult
  rw [hasked] at hi
  cases hi
  cases key' with
  | session k =>
    obtain rfl := CacheKey.same_session.1 hsame
    refine ⟨j, hfinish, hj.trans hasked.symm, fun q other? hq => ?_⟩
    rw [hj] at hq
    simp only [Option.some.injEq, Cache.Request.getOrCreate.injEq, CacheKey.session.injEq] at hq
    exact eq_or_confusable_of_key hq.symm
  | scalar s => cases hsame
  | composite kind text => cases hsame

end

namespace Sessions

variable {s : Sessions} {granted : List HttpSession} {c : RunConfig} {o : LoginOptions}
  {reply : Reply} {actor? : Option String} {h : HttpSession}

/-- The HTTP session that a cached login returns was opened by posting the pair of the login, or one
that it is confused with. -/
lemma Reached.exists_post_for_pair (hs : Reached s granted)
    (hresult : (s.call c reply (.cached o actor?)).2 = .inr (some (.handle h))) :
    ∃ post : Post, (s.call c reply (.cached o actor?)).1.traffic.posts[h.number - 1]? = some post ∧
      (post.credentials = effectiveCredentials c o.credentials? ∨
        Confusable post.credentials (effectiveCredentials c o.credentials?)) := by
  have haccounted := hs.accounted
  have heffect := (call_effect haccounted.quiet c reply (.cached o actor?)).1
  generalize s.call c reply (.cached o actor?) = ended at heffect hresult ⊢
  obtain ⟨t, x⟩ := ended
  cases heffect with
  | hit cached traffic entries =>
    cases hresult
    obtain ⟨post, label?, hpost, hkey⟩ := haccounted.derived _ (List.mem_of_find?_eq_some cached)
    have hsame := List.find?_some cached
    rw [hkey, CacheKey.same_session] at hsame
    rw [traffic]
    exact ⟨post, hpost, eq_or_confusable_of_key hsame⟩
  | stored absent attempt entries =>
    cases hresult
    obtain ⟨post, hsent, hpost⟩ := attempt.exists_post haccounted.posted
    refine ⟨post, hpost, .inl ?_⟩
    rw [Post.credentials, hsent.identifier, hsent.secret]
  | failed absent attempt entries => cases hresult
  | evicted evicts entries traffic => cases evicts

end Sessions

/-- How pairs of identifier and secret are kept apart. The fingerprint of a pair is that of its key.
Keys under the same label are the same just for the same pair, or for pairs that are confused and
would name the actor alike. Without a collision of the digest, and without the separator in the
identifiers if there is a label, keys are the same for the same pair alone. The cache returns a
handle only to those who ask for the key that it was created for, whatever calls run at the same
time, and a cached login returns an HTTP session that was opened with its pair, or with one that it
is confused with. -/
theorem pairs_separated (p q : Credentials) (actor? : Option String) :
    (p.key actor?).fingerprint = p.fingerprint ∧
    (p.key actor? = q.key actor? ↔
      p = q ∨ Confusable p q ∧ (isLabel actor? = true ∨ p.identifier = q.identifier)) ∧
    (¬Collide p.message q.message →
      (isLabel actor? = true → p.hasSeparator = false ∧ q.hasSeparator = false) →
        (p.key actor? = q.key actor? ↔ p = q)) ∧
    (∀ {η : Type} [Closable η] {as : List (Action η)} {t i h},
      State.empty.performAll as = some t → t.result? i = some (.handle h) →
        (requests as)[i]? = some (.getOrCreate (.session (p.key actor?))) →
          ∃ j, .finish j (.ok h) ∈ as ∧ (requests as)[j]? = (requests as)[i]? ∧
            ∀ r other?, (requests as)[j]? = some (.getOrCreate (.session (r.key other?))) →
              r = p ∨ Confusable r p) ∧
    ∀ {s granted}, Sessions.Reached s granted → ∀ {c reply o h},
      effectiveCredentials c o.credentials? = p →
        (s.call c reply (.cached o actor?)).2 = .inr (some (.handle h)) →
          ∃ post : Post,
            (s.call c reply (.cached o actor?)).1.traffic.posts[h.number - 1]? = some post ∧
              (post.credentials = p ∨ Confusable post.credentials p) := by
  refine ⟨rfl, Credentials.key_eq_iff, ?_, ?_, ?_⟩
  · intro hdigest hlabel
    exact Credentials.key_eq_iff_of_separated hdigest hlabel
  · intro η _ as t i h has hresult hasked
    exact exists_creation_for_pair has hresult hasked
  · rintro s granted hs c reply o h rfl hresult
    exact hs.exists_post_for_pair hresult

namespace Separated

/-- A login with a pair of its own. -/
def optionsFor (p : Credentials) : LoginOptions := ⟨some p, defaultEndpoint, none⟩

/-- The number of the HTTP session that a cached login returns. -/
def returned? : Sessions.Ending → Option Nat
  | .inr (some (.handle h)) => some h.number
  | _ => none

lemma exists_of_returned? {x : Sessions.Ending} {n : Nat} (h : returned? x = some n) :
    ∃ session : HttpSession, x = .inr (some (.handle session)) ∧ session.number = n := by
  unfold returned? at h
  split at h
  · next session => exact ⟨session, rfl, Option.some.inj h⟩
  · cases h

/-- The sessions after a cached login of the pair under a label. -/
def afterLogin (p : Credentials) : Sessions :=
  (Sessions.none.call Sessions.actorConfig Sessions.tokenReply
    (.cached (optionsFor p) (some "admin"))).1

lemma reached_afterLogin (p : Credentials) :
    ∃ granted, Sessions.Reached (afterLogin p) granted :=
  ⟨_, .call Sessions.actorConfig Sessions.tokenReply (.cached (optionsFor p) (some "admin")) .start⟩

/-- Two secrets of one identifier have keys of their own under a common label. Who asks a second
time for the first one gets the handle that was created for it, and who logs in with the second one
gets a new HTTP session. -/
theorem pairs_separated_secrets :
    let p : Credentials := ⟨"ana", "one"⟩
    let q : Credentials := ⟨"ana", "two"⟩
    let label := some "admin"
    let k := CacheKey.session (p.key label)
    let as : List (Action Nat) := [.start (.getOrCreate k), .advance 0, .advance 0, .advance 0,
      .finish 0 (.ok 7), .advance 0, .start (.getOrCreate k)]
    (¬Collide p.message q.message ∧ isLabel label = true ∧ p.hasSeparator = false ∧
      q.hasSeparator = false ∧ p.key label ≠ q.key label) ∧
    (∃ t, State.empty.performAll as = some t ∧ t.result? 1 = some (.handle 7) ∧
      ∃ j, .finish j (.ok 7) ∈ as ∧ (requests as)[j]? = some (.getOrCreate k)) ∧
    ∃ session : HttpSession, session.number = 2 ∧ ∃ post : Post,
      ((afterLogin p).call Sessions.actorConfig Sessions.tokenReply
        (.cached (optionsFor q) label)).1.traffic.posts[1]? = some post ∧
          (post.credentials = q ∨ Confusable post.credentials q) := by
  intro p q label k as
  obtain ⟨-, -, hseparated, hcache, -⟩ := pairs_separated p q label
  have hdigests : truncatedDigest p.message ≠ truncatedDigest q.message := by decide +kernel
  have hcollide : ¬Collide p.message q.message := fun h => hdigests h.2
  have hp : p.hasSeparator = false := by decide
  have hq : q.hasSeparator = false := by decide
  have hkeys : p.key label ≠ q.key label := by
    rw [Ne, hseparated hcollide fun _ => ⟨hp, hq⟩]
    decide
  have hrun : ((State.empty.performAll as).bind fun t => t.result? 1) = some (.handle 7) := by
    decide +kernel
  obtain ⟨t, ht, hresult⟩ := Option.bind_eq_some_iff.1 hrun
  have hsecond : (requests as)[1]? = some (.getOrCreate (.session (p.key label))) := rfl
  obtain ⟨j, hfinish, hasked, -⟩ := hcache ht hresult hsecond
  have hreturned : returned? ((afterLogin p).call Sessions.actorConfig Sessions.tokenReply
      (.cached (optionsFor q) label)).2 = some 2 := by decide +kernel
  obtain ⟨session, hsession, hnumber⟩ := exists_of_returned? hreturned
  obtain ⟨granted, hreached⟩ := reached_afterLogin p
  have hwho : effectiveCredentials Sessions.actorConfig (optionsFor q).credentials? = q := by decide
  obtain ⟨-, -, -, -, hlogin⟩ := pairs_separated q p label
  obtain ⟨post, hpost, hpair⟩ := hlogin hreached hwho hsession
  have hindex : session.number - 1 = 1 := by omega
  rw [hindex] at hpost
  exact ⟨⟨hcollide, rfl, hp, hq, hkeys⟩, ⟨t, ht, hresult, j, hfinish, hasked.trans hsecond⟩, session,
    hnumber, post, hpost, hpair⟩

/-- A pair with the separator in its identifier has the key of another pair under a common label,
with no collision of the digest: both are joined to one text. -/
theorem keys_eq_of_separator :
    let p : Credentials := ⟨"ana\x00x", "y"⟩
    let q : Credentials := ⟨"ana", "x\x00y"⟩
    p ≠ q ∧ p.message = q.message ∧ p.key (some "admin") = q.key (some "admin") := by
  intro p q
  have hshifted : Credentials.Shifted q p := ⟨"x", by decide, by decide⟩
  exact ⟨by decide, Credentials.message_eq_iff.2 (.inr (.inr hshifted)),
    Credentials.key_eq_iff.2 (.inr ⟨.inr (.inl hshifted), .inl rfl⟩)⟩

end Separated

end TaggedSuite.Session
