import TaggedSuite.Proofs.Except
import TaggedSuite.Proofs.Session.Cache.Sequential
import TaggedSuite.Proofs.Value.Writable
import TaggedSuite.Session.Login

/-!
# Accounting for logins

Each request of a login opens an HTTP session. The login closes it again, or returns it to its
caller or to the cache, and the cache closes what it gives up. So at any time each HTTP session that
was opened is in one place, and what is cached under a key was posted with the credentials that the
key is made of.
-/
namespace TaggedSuite.Session

open Cache (Entry PlainMap SameLocks closes)

variable {c : RunConfig} {o : LoginOptions}

/-! ### One login -/

/-- Credentials that are handed on are not replaced once more. -/
lemma effectiveCredentials_some (c : RunConfig) (given : Option Credentials) :
    effectiveCredentials c (some (effectiveCredentials c given)) =
      effectiveCredentials c given := by
  cases given with
  | none => exact ite_self _
  | some g => by_cases hg : g.isPresent <;> simp [effectiveCredentials, hg]

/-- The request is one that the configuration allows, with these credentials in it. -/
structure Post.IsFor (post : Post) (c : RunConfig) (who : Credentials) : Prop where
  present : who.isPresent = true
  address : c.apiUrl ≠ ""
  identifier : post.identifier = who.identifier
  secret : post.secret = who.secret

lemma Post.isFor_of_prepare {post : Post} (h : Post.prepare c o = .ok post) :
    post.IsFor c (effectiveCredentials c o.credentials?) := by
  unfold Post.prepare at h
  dsimp only at h
  by_cases hwho : (!(effectiveCredentials c o.credentials?).isPresent) = true
  · rw [if_pos hwho] at h
    cases h
  · rw [if_neg hwho] at h
    by_cases haddress : c.apiUrl = ""
    · rw [if_pos haddress] at h
      cases h
    · rw [if_neg haddress] at h
      have hpresent : (effectiveCredentials c o.credentials?).isPresent = true := by
        simpa using hwho
      cases htimeout : o.timeout? with
      | some timeout =>
        rw [htimeout] at h
        cases h
        exact ⟨hpresent, haddress, rfl, rfl⟩
      | none =>
        rw [htimeout] at h
        obtain ⟨timeout, -, h⟩ := bind_eq_ok.1 h
        cases h
        exact ⟨hpresent, haddress, rfl, rfl⟩

/-- The token of an answer has a text, as it was read from JSON. -/
lemma Body.isWritable_of_token {body : Body} {post : Post} {v : Value}
    (h : body.token post = .ok v) : v.IsWritable := by
  cases body with
  | unreadable => cases h
  | text s =>
    simp only [Body.token] at h
    split at h
    · cases h
    · cases h
    · next read hread =>
      split at h
      · next token htoken =>
        obtain rfl := Except.ok.inj h
        unfold token? at htoken
        split at htoken
        · have hentries := Value.isWritable_map.1 (Json.isWritable_of_readChars hread)
          obtain ⟨field, -, hv⟩ := List.mem_filterMap.1 (List.mem_of_find?_eq_some htoken)
          exact hentries.of_get? hv
        · cases htoken
      · cases h

lemma Reply.isWritable_of_token {reply : Reply} {post : Post} {v : Value}
    (h : reply.token post = .ok v) : v.IsWritable := by
  cases reply with
  | answer status body =>
    rw [Reply.token] at h
    split_ifs at h
    exact Body.isWritable_of_token h
  | refused | broken _ _ | garbled => cases h

/-- How a login can end, and what it makes of the traffic: there is no request, or the session that
is opened for it is closed again, or that session is returned. -/
inductive Attempt (c : RunConfig) (who : Credentials) (t : Traffic) :
    Traffic → Outcome HttpSession → Prop
  | unsent {f : Fault} : Attempt c who t t (.error f)
  | refused {post : Post} {f : Fault} (sent : post.IsFor c who) :
      Attempt c who t ⟨t.opened + 1, t.closed ++ [t.opened + 1], t.posts ++ [post]⟩ (.error f)
  | accepted {post : Post} {token : String} (sent : post.IsFor c who) :
      Attempt c who t ⟨t.opened + 1, t.closed, t.posts ++ [post]⟩ (.ok ⟨t.opened + 1, token⟩)

lemma attempt_login (c : RunConfig) (o : LoginOptions) (reply : Reply) (t : Traffic) :
    Attempt c (effectiveCredentials c o.credentials?) t (login c o reply t).traffic
      (login c o reply t).outcome := by
  unfold login
  cases hprepare : Post.prepare c o with
  | error f => exact .unsent
  | ok post =>
    have hsent := Post.isFor_of_prepare hprepare
    dsimp only
    cases hreply : reply.token post with
    | error f => exact .refused hsent
    | ok token =>
      obtain ⟨text, htext⟩ := (Reply.isWritable_of_token hreply).exists_plain?
      simp only [htext]
      exact .accepted hsent

/-- A login posts at most once. -/
lemma Attempt.posts {who : Credentials} {t t' : Traffic} {outcome : Outcome HttpSession}
    (h : Attempt c who t t' outcome) :
    t'.posts = t.posts ∨ ∃ post : Post, post.IsFor c who ∧ t'.posts = t.posts ++ [post] := by
  cases h with
  | unsent => exact .inl rfl
  | refused sent | accepted sent => exact .inr ⟨_, sent, rfl⟩

/-- What was posted before stays where it is. -/
lemma Attempt.getElem?_posts {who : Credentials} {t t' : Traffic} {outcome : Outcome HttpSession}
    (h : Attempt c who t t' outcome) {i : Nat} {post : Post} (hpost : t.posts[i]? = some post) :
    t'.posts[i]? = some post := by
  obtain ⟨hlt, -⟩ := List.getElem?_eq_some_iff.1 hpost
  rcases h.posts with hsame | ⟨_, -, hmore⟩
  · rw [hsame, hpost]
  · rw [hmore, List.getElem?_append_left hlt, hpost]

/-- An HTTP session that is returned was opened by the last request. -/
lemma Attempt.exists_post {who : Credentials} {t t' : Traffic} {h : HttpSession}
    (attempt : Attempt c who t t' (.ok h)) (hposted : t.posts.length = t.opened) :
    ∃ post : Post, post.IsFor c who ∧ t'.posts[h.number - 1]? = some post := by
  cases attempt with
  | @accepted post token sent => exact ⟨post, sent, by simp [← hposted]⟩

namespace Sessions

/-! ### One call -/

/-- What a call ends with. -/
abbrev Ending := Outcome HttpSession ⊕ Option (Cache.Result HttpSession)

/-- The HTTP session that a login without the cache returns to its caller. -/
def Ending.granted : Ending → List HttpSession
  | .inl (.ok h) => [h]
  | _ => []

/-- Whether a call ends with an error. -/
def Ending.isRaised : Ending → Bool
  | .inl (.error _) | .inr (some (.raised _)) => true
  | _ => false

/-- The entries that a call takes out of the cache, if it is one that does so. -/
def Call.evicts? : Call → Option (Entry HttpSession → Bool)
  | .clear => some fun _ => true
  | .invalidateActor actor => some fun e => e.key.actor? == some actor
  | _ => .none

/-- What a call does to the entries of the cache and to the traffic. -/
inductive Effect (c : RunConfig) (s : Sessions) : Call → Sessions → Ending → Prop
  | direct {o : LoginOptions} {t : Sessions} {outcome : Outcome HttpSession}
      (attempt : Attempt c (effectiveCredentials c o.credentials?) s.traffic t.traffic outcome)
      (entries : t.cache.entries = s.cache.entries) : Effect c s (.direct o) t (.inl outcome)
  | hit {o : LoginOptions} {actor? : Option String} {t : Sessions} {e : Entry HttpSession}
      (cached : s.cache.entry? (.session (loginKey c o actor?)) = some e)
      (traffic : t.traffic = s.traffic) (entries : t.cache.entries = s.cache.entries) :
      Effect c s (.cached o actor?) t (.inr (some (.handle e.handle)))
  | stored {o : LoginOptions} {actor? : Option String} {t : Sessions} {h : HttpSession}
      (absent : s.cache.entry? (.session (loginKey c o actor?)) = .none)
      (attempt : Attempt c (effectiveCredentials c o.credentials?) s.traffic t.traffic (.ok h))
      (entries : t.cache.entries = s.cache.entries ++ [⟨.session (loginKey c o actor?), h⟩]) :
      Effect c s (.cached o actor?) t (.inr (some (.handle h)))
  | failed {o : LoginOptions} {actor? : Option String} {t : Sessions} {f : Fault} {r : Raised}
      (absent : s.cache.entry? (.session (loginKey c o actor?)) = .none)
      (attempt : Attempt c (effectiveCredentials c o.credentials?) s.traffic t.traffic (.error f))
      (entries : t.cache.entries = s.cache.entries) :
      Effect c s (.cached o actor?) t (.inr (some (.raised r)))
  | evicted {k : Call} {t : Sessions} {why : Cache.Eviction} {gone : Entry HttpSession → Bool}
      (evicts : k.evicts? = some gone)
      (entries : t.cache.entries = s.cache.entries.filter fun e => !gone e)
      (traffic : t.traffic = { s.traffic with
        closed := s.traffic.closed ++ (s.cache.entries.filter gone).map (·.handle.number) }) :
      Effect c s k t (.inr (some (Cache.State.evictionResult why)))

/-- No call is running, and whatever is cached is cached for an actor. -/
structure Quiet (s : Sessions) : Prop where
  idle : s.cache.Idle
  keyed : ∀ e ∈ s.cache.entries, e.key.actor?.isSome

variable {s : Sessions} {reply : Reply}

lemma direct_effect (hs : s.Quiet) (o : LoginOptions) (reply : Reply) :
    Effect c s (.direct o) (s.direct c o reply).1 (.inl (s.direct c o reply).2) ∧
      (s.direct c o reply).1.cache.Idle := by
  have hcache : (s.direct c o reply).1.cache =
      { s.cache with log := s.cache.log ++ (login c o reply s.traffic).log } :=
    Cache.State.foldl_say _ _
  refine ⟨.direct (attempt_login c o reply s.traffic) ?_, ?_⟩
  · rw [hcache]
  · rw [hcache]
    exact ⟨hs.idle.pending, hs.idle.held⟩

lemma cached_effect (hs : s.Quiet) (o : LoginOptions) (actor? : Option String) (reply : Reply) :
    Effect c s (.cached o actor?) (s.cached c o actor? reply).1
        (.inr (s.cached c o actor? reply).2) ∧
      (s.cached c o actor? reply).1.cache.Idle := by
  let handedOn := { o with credentials? := some (effectiveCredentials c o.credentials?) }
  let a := login c handedOn reply s.traffic
  let create : Cache.State HttpSession → Cache.State HttpSession × Outcome HttpSession × Traffic :=
    fun cache => (a.log.foldl Cache.State.say cache, a.outcome, a.traffic)
  let called := s.cache.getOrCreate (.session (loginKey c o actor?)) create
  have hcached : s.cached c o actor? reply =
      (⟨called.1, called.2.2.getD s.traffic⟩, called.2.1) := rfl
  have hattempt := attempt_login c handedOn reply s.traffic
  rw [effectiveCredentials_some] at hattempt
  cases hfound : s.cache.entry? (.session (loginKey c o actor?)) with
  | some e =>
    obtain ⟨cache, hcall, hlocks, hentries, -⟩ :=
      Cache.getOrCreate_of_cached create rfl hfound
    have hcalled : called = (cache, some (.handle e.handle), .none) := hcall
    rw [hcached, hcalled]
    exact ⟨.hit hfound rfl hentries, hs.idle.of_sameLocks hlocks⟩
  | none =>
    obtain ⟨cache, r, hcall, hidle, -, hmap⟩ :=
      Cache.getOrCreate_of_absent create hs.idle rfl hfound fun _ => rfl
    have hcalled : called = (cache, some r, some a.traffic) := hcall
    rw [hcached, hcalled]
    refine ⟨?_, hidle⟩
    rcases (PlainMap.getOrCreate_absent rfl hfound).1 hmap with h | h
    · obtain ⟨handle, houtcome, hentries, rfl⟩ := h
      rw [Option.some.inj houtcome] at hattempt
      exact .stored hfound hattempt hentries
    · obtain ⟨f, houtcome, hentries, rfl⟩ := h
      rw [Option.some.inj houtcome] at hattempt
      exact .failed hfound hattempt hentries

/-- Every HTTP session that the cache gives up is closed. -/
lemma request_effect (hs : s.Quiet) {r : Cache.Request} {k : Call} {why : Cache.Eviction}
    {gone : Entry HttpSession → Bool} (evicts : k.evicts? = some gone)
    (hstart : s.cache.start r =
      { s.cache with entries := s.cache.entries.filter fun e => !gone e }.join
        (.releasing (s.cache.entries.filter gone) why)) :
    Effect c s k (s.request r).1 (.inr (s.request r).2) ∧ (s.request r).1.cache.Idle := by
  obtain ⟨cache, hcall, hlocks, hentries, hclosed⟩ := Cache.request_of_evicting hstart rfl
  have hall : ((s.cache.entries.filter gone).map (·.handle)).filter closes =
      (s.cache.entries.filter gone).map (·.handle) := List.filter_eq_self.2 fun _ _ => rfl
  have hnumbers : (cache.closed.drop s.cache.closed.length).map (·.number) =
      (s.cache.entries.filter gone).map (·.handle.number) := by
    rw [hclosed, hall]
    simp
  have hrequest : s.request r =
      (⟨cache, { s.traffic with
        closed := s.traffic.closed ++ (s.cache.entries.filter gone).map (·.handle.number) }⟩,
        some (Cache.State.evictionResult why)) := by
    rw [Sessions.request, hcall]
    simp only [hnumbers]
  rw [hrequest]
  exact ⟨.evicted evicts hentries rfl, hs.idle.of_sameLocks ⟨hlocks.pending, hlocks.held,
    hlocks.lockCount⟩⟩

lemma clear_effect (hs : s.Quiet) :
    Effect c s .clear (s.request .clear).1 (.inr (s.request .clear).2) ∧
      (s.request .clear).1.cache.Idle := by
  have hstart : s.cache.start .clear =
      { s.cache with entries := s.cache.entries.filter fun _ => !true }.join
        (.releasing (s.cache.entries.filter fun _ => true) (.all s.cache.entries.length)) := by
    simp [Cache.State.start]
  exact request_effect hs rfl hstart

lemma invalidateActor_effect (hs : s.Quiet) (actor : String) :
    Effect c s (.invalidateActor actor) (s.request (.invalidateActor actor)).1
        (.inr (s.request (.invalidateActor actor)).2) ∧
      (s.request (.invalidateActor actor)).1.cache.Idle := by
  have hkeyed : (s.cache.entries.find? fun e => e.key.actor?.isNone) = .none := by
    rw [List.find?_eq_none]
    intro e he
    simpa [Option.isSome_iff_ne_none] using hs.keyed e he
  let gone : Entry HttpSession → Bool := fun e => e.key.actor? == some actor
  have hstart : s.cache.start (.invalidateActor actor) =
      { s.cache with entries := s.cache.entries.filter fun e => !gone e }.join
        (.releasing (s.cache.entries.filter gone)
          (.actor actor (s.cache.entries.filter gone).length)) := by
    rw [Cache.State.start, Cache.State.startActorInvalidation, hkeyed]
  exact request_effect hs rfl hstart

/-- Every call comes to its end, and leaves no call running. -/
theorem call_effect (hs : s.Quiet) (c : RunConfig) (reply : Reply) (k : Call) :
    Effect c s k (s.call c reply k).1 (s.call c reply k).2 ∧ (s.call c reply k).1.cache.Idle := by
  cases k with
  | direct o => exact direct_effect hs o reply
  | cached o actor? => exact cached_effect hs o actor? reply
  | invalidateActor actor => exact invalidateActor_effect hs actor
  | clear => exact clear_effect hs

/-! ### Every call -/

/-- The HTTP sessions in the cache, by their numbers. -/
def cachedNumbers (s : Sessions) : List Nat := s.cache.entries.map (·.handle.number)

lemma cachedNumbers_congr {t : Sessions} (h : t.cache.entries = s.cache.entries) :
    t.cachedNumbers = s.cachedNumbers := by
  rw [cachedNumbers, h, cachedNumbers]

/-- The HTTP session is cached under the key of the credentials that were posted for it. -/
def IsDerived (t : Traffic) (e : Entry HttpSession) : Prop :=
  ∃ post actor?, t.posts[e.handle.number - 1]? = some post ∧
    e.key = .session (.ofCredentials post.identifier post.secret actor?)

lemma IsDerived.mono {t t' : Traffic} {e : Entry HttpSession} (h : IsDerived t e)
    (hposts : ∀ {i : Nat} {post : Post}, t.posts[i]? = some post → t'.posts[i]? = some post) :
    IsDerived t' e := by
  obtain ⟨post, actor?, hpost, hkey⟩ := h
  exact ⟨post, actor?, hposts hpost, hkey⟩

/-- What is known of the sessions after calls that have returned some HTTP sessions without the
cache. -/
structure Accounted (s : Sessions) (granted : List HttpSession) : Prop where
  idle : s.cache.Idle
  /-- Every request opened one HTTP session. -/
  posted : s.traffic.posts.length = s.traffic.opened
  derived : ∀ e ∈ s.cache.entries, IsDerived s.traffic e
  /-- Each HTTP session is cached, granted or closed. -/
  placed : (s.cachedNumbers ++ granted.map (·.number) ++ s.traffic.closed).Perm
    (List.range' 1 s.traffic.opened)

namespace Accounted

variable {granted : List HttpSession}

lemma quiet (h : s.Accounted granted) : s.Quiet where
  idle := h.idle
  keyed e he := by
    obtain ⟨post, actor?, -, hkey⟩ := h.derived e he
    rw [hkey]
    rfl

/-- There is nothing to account for before the first call. -/
lemma initial : Accounted .none [] where
  idle := ⟨rfl, rfl⟩
  posted := rfl
  derived _ he := nomatch he
  placed := .nil

/-- A login opens at most one HTTP session, which is closed if it is not returned. -/
lemma attempted {who : Credentials} {t : Traffic} {outcome : Outcome HttpSession}
    (h : s.Accounted granted) (attempt : Attempt c who s.traffic t outcome) :
    t.posts.length = t.opened ∧
      (s.cachedNumbers ++ granted.map (·.number) ++ t.closed ++
        outcome.toOption.toList.map (·.number)).Perm (List.range' 1 t.opened) := by
  have hnext : List.range' 1 (s.traffic.opened + 1) =
      List.range' 1 s.traffic.opened ++ [s.traffic.opened + 1] := by
    rw [List.range'_1_concat, Nat.add_comm]
  cases attempt with
  | unsent => exact ⟨h.posted, by simpa [Except.toOption] using h.placed⟩
  | refused =>
    refine ⟨by simp [h.posted], ?_⟩
    rw [hnext]
    simpa [Except.toOption] using h.placed.append_right [s.traffic.opened + 1]
  | accepted =>
    refine ⟨by simp [h.posted], ?_⟩
    rw [hnext]
    simpa [Except.toOption] using h.placed.append_right [s.traffic.opened + 1]

/-- Every call keeps the account. -/
theorem step {k : Call} {t : Sessions} {x : Ending} (h : s.Accounted granted)
    (heffect : Effect c s k t x) (hidle : t.cache.Idle) : t.Accounted (granted ++ x.granted) := by
  cases heffect with
  | @direct o t outcome attempt entries =>
    obtain ⟨hposted, hplaced⟩ := h.attempted attempt
    have hgranted : Ending.granted (.inl outcome) = outcome.toOption.toList := by
      cases outcome <;> rfl
    refine ⟨hidle, hposted, fun e he => ?_, ?_⟩
    · exact (h.derived e (entries ▸ he)).mono attempt.getElem?_posts
    · rw [hgranted, cachedNumbers_congr entries, List.map_append]
      refine List.Perm.trans ?_ hplaced
      simp only [List.append_assoc]
      exact (List.perm_append_comm.append_left _).append_left _
  | hit cached traffic entries =>
    refine ⟨hidle, traffic ▸ h.posted, fun e he => traffic ▸ h.derived e (entries ▸ he), ?_⟩
    rw [cachedNumbers_congr entries, traffic]
    simpa [Ending.granted] using h.placed
  | @stored o actor? t handle absent attempt entries =>
    obtain ⟨hposted, hplaced⟩ := h.attempted attempt
    obtain ⟨post, hsent, hpost⟩ := attempt.exists_post h.posted
    refine ⟨hidle, hposted, fun e he => ?_, ?_⟩
    · rw [entries] at he
      rcases List.mem_append.1 he with he | he
      · exact (h.derived e he).mono attempt.getElem?_posts
      · obtain rfl := List.mem_singleton.1 he
        refine ⟨post, actor?, hpost, ?_⟩
        rw [hsent.identifier, hsent.secret]
        rfl
    · have hcached : t.cachedNumbers = s.cachedNumbers ++ [handle.number] := by
        rw [cachedNumbers, entries, List.map_append]
        rfl
      rw [hcached]
      refine List.Perm.trans ?_ hplaced
      simp only [Ending.granted, List.append_nil, List.append_assoc]
      refine List.Perm.append_left _ ?_
      rw [← List.append_assoc (granted.map _)]
      exact List.perm_append_comm
  | failed absent attempt entries =>
    obtain ⟨hposted, hplaced⟩ := h.attempted attempt
    refine ⟨hidle, hposted, fun e he => ?_, ?_⟩
    · exact (h.derived e (entries ▸ he)).mono attempt.getElem?_posts
    · rw [cachedNumbers_congr entries]
      simpa [Ending.granted, Except.toOption] using hplaced
  | @evicted k t why gone evicts entries traffic =>
    refine ⟨hidle, traffic ▸ h.posted, fun e he => ?_, ?_⟩
    · rw [entries] at he
      have hderived := h.derived e (List.mem_of_mem_filter he)
      exact traffic ▸ hderived
    · have hsplit : (t.cachedNumbers ++ (s.cache.entries.filter gone).map (·.handle.number)).Perm
          s.cachedNumbers := by
        rw [cachedNumbers, entries, ← List.map_append]
        exact (List.perm_append_comm.trans (List.filter_append_perm gone _)).map _
      rw [traffic]
      simp only [Ending.granted, List.append_nil]
      calc t.cachedNumbers ++ granted.map (·.number) ++
            (s.traffic.closed ++ (s.cache.entries.filter gone).map (·.handle.number))
        _ |>.Perm (t.cachedNumbers ++ (s.cache.entries.filter gone).map (·.handle.number) ++
            (granted.map (·.number) ++ s.traffic.closed)) := by
          simp only [List.append_assoc]
          refine List.Perm.append_left _ ?_
          rw [← List.append_assoc]
          exact List.perm_append_comm
        _ |>.Perm (s.cachedNumbers ++ (granted.map (·.number) ++ s.traffic.closed)) :=
          hsplit.append_right _
        _ |>.Perm (List.range' 1 s.traffic.opened) := by
          rw [← List.append_assoc]
          exact h.placed

/-- An HTTP session that was opened is in one place, once. -/
lemma count_eq (h : s.Accounted granted) (n : Nat) :
    s.cachedNumbers.count n + (granted.map (·.number)).count n + s.traffic.closed.count n =
      if 1 ≤ n ∧ n ≤ s.traffic.opened then 1 else 0 := by
  have hcount := h.placed.count_eq n
  rw [List.count_append, List.count_append] at hcount
  have hmem : n ∈ List.range' 1 s.traffic.opened ↔ 1 ≤ n ∧ n ≤ s.traffic.opened := by
    rw [List.mem_range'_1]
    omega
  have hnodup : (List.range' 1 s.traffic.opened).Nodup := List.nodup_range' 1
  rw [hcount, hnodup.count]
  exact if_congr hmem rfl rfl

end Accounted

/-- The options of a login, with the cache or without it. -/
def Call.login? : Call → Option LoginOptions
  | .direct o | .cached o _ => some o
  | _ => .none

/-- What holds of every call. -/
structure Regular (c : RunConfig) (s : Sessions) (k : Call) (t : Sessions) (x : Ending) : Prop where
  /-- The call comes to its end. -/
  ends : x ≠ .inr .none
  /-- A session that is cached is returned without any traffic. -/
  hit : ∀ o actor? e, k = .cached o actor? →
    s.cache.entry? (.session (loginKey c o actor?)) = some e →
      t.traffic = s.traffic ∧ x = .inr (some (.handle e.handle))
  /-- A session that is returned without having been cached is cached from then on. -/
  stored : ∀ o actor? h, k = .cached o actor? →
    s.cache.entry? (.session (loginKey c o actor?)) = .none → x = .inr (some (.handle h)) →
      t.cache.entries = s.cache.entries ++ [⟨.session (loginKey c o actor?), h⟩]
  /-- A login posts at most once, and then the credentials that it is for. -/
  posts : ∀ o, k.login? = some o → t.traffic.posts = s.traffic.posts ∨
    ∃ post : Post, post.IsFor c (effectiveCredentials c o.credentials?) ∧
      t.traffic.posts = s.traffic.posts ++ [post]
  /-- A login without an actor or an address posts nothing. -/
  unposted : ∀ o, k.login? = some o →
    (effectiveCredentials c o.credentials?).isPresent = false ∨ c.apiUrl = "" →
      t.traffic.posts = s.traffic.posts
  /-- A login that fails leaves the cache as it is. -/
  raised : Ending.isRaised x = true → t.cache.entries = s.cache.entries

namespace Effect

variable {k : Call} {t : Sessions} {x : Ending}

lemma posts (h : Effect c s k t x) (hk : k.login? = some o) :
    t.traffic.posts = s.traffic.posts ∨
      ∃ post : Post, post.IsFor c (effectiveCredentials c o.credentials?) ∧
        t.traffic.posts = s.traffic.posts ++ [post] := by
  cases h with
  | direct attempt entries | stored absent attempt entries | failed absent attempt entries =>
    cases hk
    exact attempt.posts
  | hit cached traffic entries => exact .inl (traffic ▸ rfl)
  | evicted evicts entries traffic => exact .inl (traffic ▸ rfl)

lemma hit_eq {actor? : Option String} {e : Entry HttpSession}
    (h : Effect c s (.cached o actor?) t x)
    (hfound : s.cache.entry? (.session (loginKey c o actor?)) = some e) :
    t.traffic = s.traffic ∧ x = .inr (some (.handle e.handle)) := by
  cases h with
  | hit cached traffic entries =>
    obtain rfl := Option.some.inj (cached.symm.trans hfound)
    exact ⟨traffic, rfl⟩
  | stored absent attempt entries => exact nomatch absent.symm.trans hfound
  | failed absent attempt entries => exact nomatch absent.symm.trans hfound
  | evicted evicts entries traffic =>
    cases evicts

lemma entries_of_absent {actor? : Option String} {handle : HttpSession}
    (h : Effect c s (.cached o actor?) t x)
    (habsent : s.cache.entry? (.session (loginKey c o actor?)) = .none)
    (hx : x = .inr (some (.handle handle))) :
    t.cache.entries = s.cache.entries ++ [⟨.session (loginKey c o actor?), handle⟩] := by
  cases h with
  | hit cached traffic entries => exact nomatch habsent.symm.trans cached
  | stored absent attempt entries =>
    cases hx
    exact entries
  | failed absent attempt entries => cases hx
  | evicted evicts entries traffic => cases evicts

lemma raised (h : Effect c s k t x) (hx : Ending.isRaised x = true) :
    t.cache.entries = s.cache.entries := by
  cases h with
  | direct attempt entries | hit cached traffic entries | failed absent attempt entries =>
    exact entries
  | stored absent attempt entries => cases hx
  | @evicted k t why gone evicts entries traffic => cases why <;> cases hx

lemma regular (h : Effect c s k t x) : Regular c s k t x where
  ends := by cases h <;> exact nofun
  hit o actor? e hk hfound := by
    subst hk
    exact h.hit_eq hfound
  stored o actor? handle hk habsent hx := by
    subst hk
    exact h.entries_of_absent habsent hx
  posts o hk := h.posts hk
  unposted o hk hmissing := by
    rcases h.posts hk with hsame | ⟨post, hsent, -⟩
    · exact hsame
    · rcases hmissing with hnobody | hnowhere
      · exact absurd hsent.present (by simp [hnobody])
      · exact absurd hnowhere hsent.address
  raised hx := h.raised hx

end Effect

/-! ### Whole runs -/

/-- The sessions that calls can lead to, for any configurations and replies, with the HTTP sessions
that logins without the cache have returned. -/
inductive Reached : Sessions → List HttpSession → Prop
  | start : Reached .none []
  | call {s : Sessions} {granted : List HttpSession} (c : RunConfig) (reply : Reply) (k : Call)
      (before : Reached s granted) :
      Reached (s.call c reply k).1 (granted ++ Ending.granted (s.call c reply k).2)

lemma Reached.accounted {granted : List HttpSession} (h : Reached s granted) :
    s.Accounted granted := by
  induction h with
  | start => exact .initial
  | call c reply k _ ih =>
    obtain ⟨heffect, hidle⟩ := call_effect ih.quiet c reply k
    exact ih.step heffect hidle

/-- What is there after each call of a run can be reached. -/
lemma Reached.run {granted : List HttpSession} {replies : List Reply} {calls : List Call}
    {past future : List (Sessions × Ending)} {t : Sessions} {x : Ending} (h : Reached s granted)
    (hrun : Sessions.run c s replies calls = past ++ (t, x) :: future) :
    Reached t (granted ++ (past ++ [(t, x)]).flatMap fun a => Ending.granted a.2) := by
  induction calls generalizing s granted replies past with
  | nil => exact absurd hrun (by simp [Sessions.run])
  | cons k calls ih =>
    rw [Sessions.run] at hrun
    have hnext := h.call c (replies.headD noReply) k
    cases past with
    | nil =>
      obtain ⟨hfirst, -⟩ := List.cons.inj hrun
      have hcall : s.call c (replies.headD noReply) k = (t, x) := hfirst
      rw [hcall] at hnext
      simpa only [List.nil_append, List.flatMap_singleton] using hnext
    | cons first past =>
      obtain ⟨hfirst, hrest⟩ := List.cons.inj hrun
      have hcall : s.call c (replies.headD noReply) k = first := hfirst
      have hlast := ih hnext hrest
      rw [hcall] at hlast
      simpa only [List.cons_append, List.flatMap_cons, List.append_assoc] using hlast

/-- The account of logins, whatever calls are made with whatever configurations and replies. Every
call is regular. Each request has opened one HTTP session, and those in the cache were opened by
posting the credentials that their keys are made of. An HTTP session that was opened is cached, was
returned by a login without the cache, or was closed: just one of these, and just once. What each
call of a run leaves can be reached. -/
theorem logins_accounted :
    (∀ {s granted}, Reached s granted →
      (∀ c reply k, Regular c s k (s.call c reply k).1 (s.call c reply k).2) ∧
      s.traffic.posts.length = s.traffic.opened ∧
      (∀ e ∈ s.cache.entries, IsDerived s.traffic e) ∧
      ∀ n, s.cachedNumbers.count n + (granted.map (·.number)).count n + s.traffic.closed.count n =
        if 1 ≤ n ∧ n ≤ s.traffic.opened then 1 else 0) ∧
    ∀ {c replies calls past t x future}, run c .none replies calls = past ++ (t, x) :: future →
      Reached t ((past ++ [(t, x)]).flatMap fun a => Ending.granted a.2) := by
  constructor
  · intro s granted h
    have haccounted := h.accounted
    refine ⟨fun c reply k => ?_, haccounted.posted, haccounted.derived, haccounted.count_eq⟩
    exact (call_effect haccounted.quiet c reply k).1.regular
  · intro c replies calls past t x future hrun
    exact Reached.start.run hrun

/-- A configuration with an actor and an address. -/
def actorConfig : RunConfig where
  name := "qa"
  baseUrl := "https://qa.test"
  apiUrl := "https://qa.test/api"
  label := "qa"
  credentials := ⟨"ana", "secret"⟩
  settings := []

/-- An answer with a token. -/
def tokenReply : Reply := .answer 200 (.text "\x7b\"token\": \"t\"\x7d")

/-- Of three sessions that were opened the first one was returned, the second one was closed because
its request did not get through, and the third one is cached. -/
theorem logins_accounted_three :
    ∃ s granted, Reached s granted ∧ s.traffic.opened = 3 ∧ granted.map (·.number) = [1] ∧
      s.traffic.closed = [2] ∧ s.cachedNumbers = [3] ∧
      (∀ e ∈ s.cache.entries, IsDerived s.traffic e) ∧
      ∀ c reply k, Regular c s k (s.call c reply k).1 (s.call c reply k).2 := by
  let replies : List Reply := [tokenReply, .broken (.named "ConnectionError") "reset", tokenReply]
  let calls : List Call := [.direct .default, .cached .default .none, .cached .default .none]
  let answers := run actorConfig .none replies calls
  have hseen : (answers.getLast?.map fun a =>
      (a.1.traffic.opened, a.1.traffic.closed, a.1.cachedNumbers)) = some (3, [2], [3]) := by
    decide +kernel
  have hgranted : (answers.flatMap fun a => Ending.granted a.2).map (·.number) = [1] := by
    decide +kernel
  obtain ⟨⟨s, x⟩, hlast, hs⟩ := Option.map_eq_some_iff.1 hseen
  obtain ⟨past, hrun⟩ := List.getLast?_eq_some_iff.1 hlast
  have hreached := logins_accounted.2 hrun
  rw [← hrun] at hreached
  obtain ⟨hregular, -, hderived, -⟩ := logins_accounted.1 hreached
  simp only [Prod.mk.injEq] at hs
  obtain ⟨hopened, hclosed, hcached⟩ := hs
  exact ⟨s, _, hreached, hopened, hgranted, hclosed, hcached, hderived, hregular⟩

end Sessions

end TaggedSuite.Session
