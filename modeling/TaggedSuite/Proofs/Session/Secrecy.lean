import TaggedSuite.Proofs.Config.Secrecy
import TaggedSuite.Proofs.Session.Accounting
import TaggedSuite.Proofs.Session.Cache.Renaming

/-!
# Logins that differ in their secret

The same logins are made with two configurations that differ in their secret, and the same replies
come back. What is posted differs in the secret and nowhere else, and what comes of it does not
differ at all. A cached login names its key in the log, so there the fingerprint of the secret shows
itself; it is all that shows, as long as the secrets do not change which logins share a key.
-/
namespace TaggedSuite.Session

open Cache (IsRenaming Renamed ResultAlike)
open RunConfig (Apart)

variable {c c' : RunConfig} {o o' : LoginOptions}

/-! ### One login -/

/-- The credentials are the same, or each is that of its configuration. -/
def CredentialsAlike (c c' : RunConfig) (who who' : Credentials) : Prop :=
  who' = who ∨ who = c.credentials ∧ who' = c'.credentials

lemma credentialsAlike (c c' : RunConfig) (given : Option Credentials) :
    CredentialsAlike c c' (effectiveCredentials c given) (effectiveCredentials c' given) := by
  cases given with
  | none => exact .inr ⟨rfl, rfl⟩
  | some who =>
    rw [effectiveCredentials, effectiveCredentials]
    split_ifs
    · exact .inl rfl
    · exact .inr ⟨rfl, rfl⟩

lemma CredentialsAlike.identifier {who who' : Credentials} (h : CredentialsAlike c c' who who')
    (hc : Apart c c') : who'.identifier = who.identifier := by
  rcases h with rfl | ⟨rfl, rfl⟩
  · rfl
  · exact hc.identifier

/-- The requests are the same but for the secret of the configuration. -/
structure PostAlike (c c' : RunConfig) (post post' : Post) : Prop where
  url : post'.url = post.url
  identifier : post'.identifier = post.identifier
  timeout : post'.timeout = post.timeout
  secret : post'.secret = post.secret ∨
    post.secret = c.credentials.secret ∧ post'.secret = c'.credentials.secret

/-- What has gone over the wire is the same but for the secret of the configuration. -/
structure TrafficAlike (c c' : RunConfig) (t t' : Traffic) : Prop where
  opened : t'.opened = t.opened
  closed : t'.closed = t.closed
  posts : List.Forall₂ (PostAlike c c') t.posts t'.posts

/-- Logins that are asked for alike. -/
structure OptionsAlike (c c' : RunConfig) (o o' : LoginOptions) : Prop where
  endpoint : o'.endpoint = o.endpoint
  timeout? : o'.timeout? = o.timeout?
  who : CredentialsAlike c c' (effectiveCredentials c o.credentials?)
    (effectiveCredentials c' o'.credentials?)

lemma OptionsAlike.same (c c' : RunConfig) (o : LoginOptions) : OptionsAlike c c' o o :=
  ⟨rfl, rfl, credentialsAlike c c' o.credentials?⟩

lemma configuredTimeout_apart (h : Apart c c') : configuredTimeout c' = configuredTimeout c := by
  rw [configuredTimeout, configuredTimeout, h.settings _ (by decide)]

lemma prepare_alike (h : Apart c c') (ho : OptionsAlike c c' o o') :
    Outcomes Eq (PostAlike c c') (Post.prepare c o) (Post.prepare c' o') := by
  have hidentifier := ho.who.identifier h
  have hpresent : (effectiveCredentials c' o'.credentials?).isPresent =
      (effectiveCredentials c o.credentials?).isPresent := by
    rw [Credentials.isPresent, Credentials.isPresent, hidentifier]
  have hsecret : (effectiveCredentials c' o'.credentials?).secret =
        (effectiveCredentials c o.credentials?).secret ∨
      (effectiveCredentials c o.credentials?).secret = c.credentials.secret ∧
        (effectiveCredentials c' o'.credentials?).secret = c'.credentials.secret := by
    rcases ho.who with hsame | ⟨hown, hown'⟩
    · exact .inl (congrArg _ hsame)
    · exact .inr ⟨congrArg _ hown, congrArg _ hown'⟩
  have hpost (url : String) (timeout : Value) : PostAlike c c'
      ⟨url, (effectiveCredentials c o.credentials?).identifier,
        (effectiveCredentials c o.credentials?).secret, timeout⟩
      ⟨url, (effectiveCredentials c' o'.credentials?).identifier,
        (effectiveCredentials c' o'.credentials?).secret, timeout⟩ :=
    ⟨rfl, hidentifier, rfl, hsecret⟩
  unfold Post.prepare
  dsimp only
  rw [hpresent, h.apiUrl, h.name, ho.timeout?, ho.endpoint, configuredTimeout_apart h]
  by_cases hwho : (!(effectiveCredentials c o.credentials?).isPresent) = true
  · rw [if_pos hwho, if_pos hwho]
    exact .error rfl
  · rw [if_neg hwho, if_neg hwho]
    by_cases haddress : c.apiUrl = ""
    · rw [if_pos haddress, if_pos haddress]
      exact .error rfl
    · rw [if_neg haddress, if_neg haddress]
      cases o.timeout? with
      | some timeout => exact .ok (hpost _ timeout)
      | none =>
        cases configuredTimeout c with
        | error f => exact .error rfl
        | ok timeout => exact .ok (hpost _ timeout)

lemma PostAlike.token {post post' : Post} (h : PostAlike c c' post post') (reply : Reply) :
    reply.token post' = reply.token post := by
  cases reply with
  | answer status body =>
    cases body with
    | unreadable => simp only [Reply.token, Body.token, h.identifier, h.url]
    | text s => simp only [Reply.token, Body.token, h.identifier, h.url]
  | refused | broken | garbled => simp only [Reply.token, h.identifier, h.url]

/-- A login writes the same to the log and ends in the same way. -/
lemma login_alike {t t' : Traffic} (h : Apart c c') (ho : OptionsAlike c c' o o') (reply : Reply)
    (ht : TrafficAlike c c' t t') :
    TrafficAlike c c' (login c o reply t).traffic (login c' o' reply t').traffic ∧
      (login c' o' reply t').log = (login c o reply t).log ∧
      (login c' o' reply t').outcome = (login c o reply t).outcome := by
  have hprepared := prepare_alike h ho
  unfold login
  generalize Post.prepare c o = x at hprepared
  generalize Post.prepare c' o' = y at hprepared
  cases hprepared with
  | error hf =>
    subst hf
    exact ⟨ht, rfl, rfl⟩
  | @ok post post' hpost =>
    have hposts := List.rel_append ht.posts (.cons hpost .nil)
    dsimp only
    rw [hpost.token, hpost.url, hpost.identifier, h.label, ht.opened, ht.closed]
    cases reply.token post with
    | error f => exact ⟨⟨rfl, rfl, hposts⟩, rfl, rfl⟩
    | ok token =>
      dsimp only
      cases token.plain? with
      | none => exact ⟨⟨rfl, rfl, hposts⟩, rfl, rfl⟩
      | some text => exact ⟨⟨rfl, rfl, hposts⟩, rfl, rfl⟩

namespace Sessions

/-! ### The keys of cached logins -/

/-- The keys that cached logins use with the two configurations. -/
def KeysOf (c c' : RunConfig) (calls : List Call) (k k' : CacheKey) : Prop :=
  ∃ o actor?, Call.cached o actor? ∈ calls ∧ k = .session (loginKey c o actor?) ∧
    k' = .session (loginKey c' o actor?)

/-- Two of the cached logins share their key with one of the configurations just if they do with the
other one. -/
def SameKeys (c c' : RunConfig) (calls : List Call) : Prop :=
  ∀ o actor? p other?, Call.cached o actor? ∈ calls → Call.cached p other? ∈ calls →
    (loginKey c' o actor? = loginKey c' p other? ↔ loginKey c o actor? = loginKey c p other?)

lemma actor_loginKey (h : Apart c c') (o : LoginOptions) (actor? : Option String) :
    (loginKey c' o actor?).actor = (loginKey c o actor?).actor := by
  have hidentifier := (credentialsAlike c c' o.credentials?).identifier h
  simp only [loginKey, SessionKey.ofCredentials, hidentifier]

lemma isRenaming_keysOf {calls : List Call} (h : Apart c c') (hkeys : SameKeys c c' calls) :
    IsRenaming (KeysOf c c' calls) where
  same := by
    rintro _ _ _ _ ⟨o, actor?, ho, rfl, rfl⟩ ⟨p, other?, hp, rfl, rfl⟩
    rw [Bool.eq_iff_iff, CacheKey.same_session, CacheKey.same_session]
    exact hkeys o actor? p other? ho hp
  isHashable := by
    rintro _ _ ⟨o, actor?, -, rfl, rfl⟩
    rfl
  actor? := by
    rintro _ _ ⟨o, actor?, -, rfl, rfl⟩
    exact congrArg some (actor_loginKey h o actor?)
  kindName := by
    rintro _ _ ⟨o, actor?, -, rfl, rfl⟩
    rfl

/-- The sessions are the same but for the fingerprints in keys and for the secret on the wire. -/
structure Alike (c c' : RunConfig) (calls : List Call) (s s' : Sessions) : Prop where
  cache : s.cache.Alike (KeysOf c c' calls) s'.cache
  traffic : TrafficAlike c c' s.traffic s'.traffic

/-- What calls end with is the same but for the fingerprints in keys. -/
inductive EndingAlike (c c' : RunConfig) (calls : List Call) : Ending → Ending → Prop
  | direct (outcome : Outcome HttpSession) : EndingAlike c c' calls (.inl outcome) (.inl outcome)
  | result {r? r'? : Option (Cache.Result HttpSession)}
      (h : Option.Rel (ResultAlike (KeysOf c c' calls)) r? r'?) :
      EndingAlike c c' calls (.inr r?) (.inr r'?)

variable {calls : List Call} {s s' : Sessions}

lemma Alike.direct (hs : Alike c c' calls s s') (h : Apart c c') (o : LoginOptions)
    (reply : Reply) :
    Alike c c' calls (s.direct c o reply).1 (s'.direct c' o reply).1 ∧
      (s'.direct c' o reply).2 = (s.direct c o reply).2 := by
  obtain ⟨htraffic, hlog, houtcome⟩ := login_alike h (.same c c' o) reply hs.traffic
  refine ⟨⟨?_, htraffic⟩, houtcome⟩
  rw [Sessions.direct, Sessions.direct, hlog]
  exact hs.cache.foldl_say _

lemma Alike.cached (hs : Alike c c' calls s s') (h : Apart c c') (hkeys : SameKeys c c' calls)
    {o : LoginOptions} {actor? : Option String} (hcall : Call.cached o actor? ∈ calls)
    (reply : Reply) :
    Alike c c' calls (s.cached c o actor? reply).1 (s'.cached c' o actor? reply).1 ∧
      Option.Rel (ResultAlike (KeysOf c c' calls)) (s.cached c o actor? reply).2
        (s'.cached c' o actor? reply).2 := by
  let a := login c { o with credentials? := some (effectiveCredentials c o.credentials?) } reply
    s.traffic
  let a' := login c' { o with credentials? := some (effectiveCredentials c' o.credentials?) } reply
    s'.traffic
  have hoptions : OptionsAlike c c'
      { o with credentials? := some (effectiveCredentials c o.credentials?) }
      { o with credentials? := some (effectiveCredentials c' o.credentials?) } := by
    refine ⟨rfl, rfl, ?_⟩
    rw [effectiveCredentials_some, effectiveCredentials_some]
    exact credentialsAlike c c' o.credentials?
  obtain ⟨htraffic, hlog, houtcome⟩ : TrafficAlike c c' a.traffic a'.traffic ∧ a'.log = a.log ∧
      a'.outcome = a.outcome := login_alike h hoptions reply hs.traffic
  let create (cache : Cache.State HttpSession) := (a.log.foldl Cache.State.say cache, a.outcome,
    a.traffic)
  let create' (cache : Cache.State HttpSession) := (a'.log.foldl Cache.State.say cache, a'.outcome,
    a'.traffic)
  have hcreate (t t' : Cache.State HttpSession) (ht : t.Alike (KeysOf c c' calls) t') :
      (create t).1.Alike (KeysOf c c' calls) (create' t').1 ∧
        (create' t').2.1 = (create t).2.1 ∧
          TrafficAlike c c' (create t).2.2 (create' t').2.2 := by
    refine ⟨?_, houtcome, htraffic⟩
    show (a.log.foldl Cache.State.say t).Alike _ (a'.log.foldl Cache.State.say t')
    rw [hlog]
    exact ht.foldl_say a.log
  have hk : KeysOf c c' calls (.session (loginKey c o actor?)) (.session (loginKey c' o actor?)) :=
    ⟨o, actor?, hcall, rfl, rfl⟩
  obtain ⟨hcache, hresult, hleft⟩ := hs.cache.getOrCreate (isRenaming_keysOf h hkeys) hk hcreate
  exact ⟨⟨hcache, rel_getD hleft hs.traffic⟩, hresult⟩

/-- A call that evicts entries closes the same HTTP sessions. -/
lemma Alike.request (hs : Alike c c' calls s s') (hkeys : IsRenaming (KeysOf c c' calls))
    {r : Cache.Request}
    (hstart : (s.cache.start r).Alike (KeysOf c c' calls) (s'.cache.start r)) :
    Alike c c' calls (s.request r).1 (s'.request r).1 ∧
      Option.Rel (ResultAlike (KeysOf c c' calls)) (s.request r).2 (s'.request r).2 := by
  obtain ⟨hcache, hresult⟩ := hs.cache.request hkeys hstart
  refine ⟨⟨hcache, hs.traffic.opened, ?_, hs.traffic.posts⟩, hresult⟩
  show s'.traffic.closed ++ ((s'.cache.request r).1.closed.drop s'.cache.closed.length).map _ =
    s.traffic.closed ++ ((s.cache.request r).1.closed.drop s.cache.closed.length).map _
  rw [hs.traffic.closed, hcache.closed, hs.cache.closed]

/-- Every call leaves the sessions alike and ends alike. -/
lemma Alike.call (hs : Alike c c' calls s s') (h : Apart c c') (hkeys : SameKeys c c' calls)
    {k : Call} (hk : k ∈ calls) (reply : Reply) :
    Alike c c' calls (s.call c reply k).1 (s'.call c' reply k).1 ∧
      EndingAlike c c' calls (s.call c reply k).2 (s'.call c' reply k).2 := by
  have hrenaming := isRenaming_keysOf h hkeys
  cases k with
  | direct o =>
    obtain ⟨halike, houtcome⟩ := hs.direct h o reply
    refine ⟨halike, ?_⟩
    show EndingAlike c c' calls (.inl (s.direct c o reply).2) (.inl (s'.direct c' o reply).2)
    rw [houtcome]
    exact .direct _
  | cached o actor? =>
    obtain ⟨halike, hresult⟩ := hs.cached h hkeys hk reply
    exact ⟨halike, .result hresult⟩
  | invalidateActor actor =>
    obtain ⟨halike, hresult⟩ :=
      hs.request hrenaming (hs.cache.start_invalidateActor hrenaming actor)
    exact ⟨halike, .result hresult⟩
  | clear =>
    obtain ⟨halike, hresult⟩ := hs.request hrenaming hs.cache.start_clear
    exact ⟨halike, .result hresult⟩

/-- Runs of the same calls go on alike. -/
lemma Alike.run {todo : List Call} (hs : Alike c c' calls s s') (h : Apart c c')
    (hkeys : SameKeys c c' calls) (htodo : todo ⊆ calls) (replies : List Reply) :
    List.Forall₂ (fun a a' => Alike c c' calls a.1 a'.1 ∧ EndingAlike c c' calls a.2 a'.2)
      (run c s replies todo) (run c' s' replies todo) := by
  induction todo generalizing s s' replies with
  | nil => exact .nil
  | cons k todo ih =>
    obtain ⟨hk, htodo⟩ := List.cons_subset.1 htodo
    have hcall := hs.call h hkeys hk (replies.headD noReply)
    have hleft : (s'.call c' (replies.headD noReply) k).1.traffic.posts.length -
          s'.traffic.posts.length =
        (s.call c (replies.headD noReply) k).1.traffic.posts.length - s.traffic.posts.length := by
      rw [hcall.1.traffic.posts.length_eq, hs.traffic.posts.length_eq]
    rw [Sessions.run, Sessions.run]
    dsimp only
    rw [hleft]
    exact .cons hcall (ih hcall.1 htodo _)

/-- Two passwords that are texts. -/
def Passwords (v w : Value) : Prop := ∃ secret secret', v = .str secret ∧ w = .str secret'

namespace Shared

/-- The overlay of one environment with an actor. -/
def overlays (secret : String) : Overlays :=
  [("qa", [(Settings.envKey, .map [(.str "apiUrl", .str "https://qa.test/api"),
    (.str "username", .str "ana"), (.str "password", .str secret)])])]

/-- What the name of the environment resolves to. -/
def config (secret : String) : RunConfig where
  name := "qa"
  baseUrl := ""
  apiUrl := "https://qa.test/api"
  label := "qa"
  credentials := ⟨"ana", secret⟩
  settings := [(Settings.envKey, .view [(.str "apiUrl", .str "https://qa.test/api"),
    (.str "username", .str "ana"), (.str "password", .str secret)])]

/-- Answers with one token each. -/
def replies : List Reply :=
  [.answer 200 (.text "\x7b\"token\": \"first\"\x7d"),
    .answer 200 (.text "\x7b\"token\": \"second\"\x7d")]

end Shared

end Sessions

end TaggedSuite.Session
