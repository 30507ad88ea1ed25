import TaggedSuite.Proofs.Number.Overflow
import TaggedSuite.Proofs.Session.Accounting

/-!
# How a login ends

A login posts if it has an actor and an address and if the time to wait can be taken as a number. It
returns a session if the answer grants a token. In all other cases but one it is refused, and a
session that was opened is closed. The one case is a time to wait that is too large for a number:
then the login fails with an error of another kind, before a session is opened.
-/
namespace TaggedSuite.Session

variable {c : RunConfig} {o : LoginOptions} {who : Credentials} {reply : Reply} {t : Traffic}

/-! ### Who logs in -/

/-- Who logs in: the given actor if it has an identifier, or else that of the environment, if it has
one. -/
inductive ActsAs (c : RunConfig) (o : LoginOptions) : Credentials → Prop
  | given {who : Credentials} (asked : o.credentials? = some who) (named : who.identifier ≠ "") :
      ActsAs c o who
  | configured (unasked : ∀ who, o.credentials? = some who → who.identifier = "")
      (named : c.credentials.identifier ≠ "") : ActsAs c o c.credentials

lemma isPresent_iff : who.isPresent = true ↔ who.identifier ≠ "" := bne_iff_ne

lemma effectiveCredentials_of_asked (asked : o.credentials? = some who)
    (named : who.identifier ≠ "") : effectiveCredentials c o.credentials? = who := by
  rw [asked]
  exact if_pos (isPresent_iff.2 named)

lemma effectiveCredentials_of_unasked
    (unasked : ∀ who, o.credentials? = some who → who.identifier = "") :
    effectiveCredentials c o.credentials? = c.credentials := by
  cases hgiven : o.credentials? with
  | none => rfl
  | some other => exact if_neg (by simp [isPresent_iff, unasked other hgiven])

lemma actsAs_iff :
    ActsAs c o who ↔ effectiveCredentials c o.credentials? = who ∧ who.identifier ≠ "" := by
  constructor
  · intro h
    cases h with
    | given asked named => exact ⟨effectiveCredentials_of_asked asked named, named⟩
    | configured unasked named => exact ⟨effectiveCredentials_of_unasked unasked, named⟩
  · rintro ⟨rfl, named⟩
    by_cases hgiven : ∃ other, o.credentials? = some other ∧ other.identifier ≠ ""
    · obtain ⟨other, asked, hother⟩ := hgiven
      rw [effectiveCredentials_of_asked asked hother]
      exact .given asked hother
    · have unasked : ∀ other, o.credentials? = some other → other.identifier = "" :=
        fun other asked => by_contra fun hother => hgiven ⟨other, asked, hother⟩
      rw [effectiveCredentials_of_unasked unasked] at named ⊢
      exact .configured unasked named

/-! ### How long to wait -/

/-- The settings ask to wait for an integer that is too large for a number. -/
def HasHugeSetting (c : RunConfig) : Prop :=
  ∃ i : Int, c.settings.get? (.str "responseTimeout") = some (.scalar (.int i)) ∧
    Binary64.overflowBound ≤ i

/-- The fault of an integer that is too large for a number. -/
def Fault.overflow : Fault := .failed .overflow "int too large to convert to float"

lemma secondsOfInt_cases {i : Int} (hpos : 0 < i) :
    (∃ v, secondsOfInt i = .ok v) ∧ i < Binary64.overflowBound ∨
      secondsOfInt i = .error .overflow ∧ Binary64.overflowBound ≤ i := by
  have hbound := Binary64.classify_ofInt_eq_infinite_iff (i := i)
  unfold secondsOfInt
  split
  · next negative hinfinite =>
    have hlarge := hbound.1 ⟨negative, hinfinite⟩
    exact .inr ⟨rfl, by omega⟩
  · next hfinite =>
    refine .inl ⟨⟨_, rfl⟩, ?_⟩
    by_contra hlarge
    obtain ⟨negative, hinfinite⟩ := hbound.2 (by omega)
    exact hfinite negative hinfinite

lemma configuredTimeout_cases (c : RunConfig) :
    (∃ v, configuredTimeout c = .ok v) ∧ ¬HasHugeSetting c ∨
      configuredTimeout c = .error .overflow ∧ HasHugeSetting c := by
  unfold configuredTimeout HasHugeSetting
  split
  · next hsetting =>
    rcases secondsOfInt_cases Int.one_pos with ⟨hok, -⟩ | ⟨-, hlarge⟩
    · refine .inl ⟨hok, ?_⟩
      rw [hsetting]
      rintro ⟨i, hi, -⟩
      cases hi
    · have hbound := Binary64.overflowBound_bounds.1
      omega
  · next i hsetting =>
    rw [hsetting]
    by_cases hpos : 0 < i
    · rw [if_pos hpos]
      rcases secondsOfInt_cases hpos with ⟨hok, hsmall⟩ | ⟨hoverflow, hlarge⟩
      · refine .inl ⟨hok, ?_⟩
        rintro ⟨j, hj, hlarge⟩
        cases hj
        omega
      · exact .inr ⟨hoverflow, i, rfl, hlarge⟩
    · rw [if_neg hpos]
      refine .inl ⟨⟨_, rfl⟩, ?_⟩
      rintro ⟨j, hj, hlarge⟩
      cases hj
      have hbound := Binary64.overflowBound_bounds.1
      omega
  · next x hsetting =>
    refine .inl ⟨?_, ?_⟩
    · split
      · exact ⟨_, rfl⟩
      · exact ⟨_, rfl⟩
    · rw [hsetting]
      rintro ⟨i, hi, -⟩
      cases hi
  · next hbool hint hnum =>
    refine .inl ⟨⟨_, rfl⟩, ?_⟩
    rintro ⟨i, hi, -⟩
    exact hint i hi

/-! ### What is posted -/

/-- What a login needs to post anything. -/
structure Ready (c : RunConfig) (o : LoginOptions) (who : Credentials) : Prop where
  actor : ActsAs c o who
  address : c.apiUrl ≠ ""
  timely : ¬(o.timeout? = none ∧ HasHugeSetting c)

/-- What becomes of the request of a login. -/
inductive Prepared (c : RunConfig) (o : LoginOptions) : Except Fault Post → Prop
  | unready {e : CreationError} (missing : (∀ who, ¬ActsAs c o who) ∨ c.apiUrl = "") :
      Prepared c o (.error (.refused e))
  | overflow {who : Credentials} (actor : ActsAs c o who) (address : c.apiUrl ≠ "")
      (unbounded : o.timeout? = none ∧ HasHugeSetting c) : Prepared c o (.error .overflow)
  | ready {who : Credentials} {post : Post} (ready : Ready c o who)
      (sent : post.IsFor c who) : Prepared c o (.ok post)

lemma prepared (c : RunConfig) (o : LoginOptions) : Prepared c o (Post.prepare c o) := by
  unfold Post.prepare
  dsimp only
  by_cases hwho : (!(effectiveCredentials c o.credentials?).isPresent) = true
  · rw [if_pos hwho]
    refine .unready (.inl fun who hacts => ?_)
    obtain ⟨rfl, named⟩ := actsAs_iff.1 hacts
    rw [isPresent_iff.2 named] at hwho
    cases hwho
  rw [if_neg hwho]
  by_cases haddress : c.apiUrl = ""
  · rw [if_pos haddress]
    exact .unready (.inr haddress)
  rw [if_neg haddress]
  have hpresent : (effectiveCredentials c o.credentials?).isPresent = true := by simpa using hwho
  have hactor : ActsAs c o (effectiveCredentials c o.credentials?) :=
    actsAs_iff.2 ⟨rfl, isPresent_iff.1 hpresent⟩
  cases htimeout : o.timeout? with
  | some timeout =>
    exact .ready ⟨hactor, haddress, by simp [htimeout]⟩ ⟨hpresent, haddress, rfl, rfl⟩
  | none =>
    rcases configuredTimeout_cases c with ⟨⟨v, hv⟩, htimely⟩ | ⟨hoverflow, hhuge⟩
    · rw [hv]
      exact .ready ⟨hactor, haddress, fun h => htimely h.2⟩ ⟨hpresent, haddress, rfl, rfl⟩
    · rw [hoverflow]
      exact .overflow hactor haddress ⟨htimeout, hhuge⟩

/-! ### What is answered -/

/-- The value is that of the first of the three fields with a value that counts as true. -/
def IsFirstToken (entries : Entries) (v : Value) : Prop :=
  ∃ before field after, ["token", "accessToken", "access_token"] = before ++ field :: after ∧
    entries.get? (.str field) = some v ∧ v.truthy = true ∧
    ∀ earlier ∈ before, ∀ w, entries.get? (.str earlier) = some w → w.truthy = false

lemma token?_map_eq_some_iff {entries : Entries} {v : Value} :
    token? (.map entries) = some v ↔ IsFirstToken entries v := by
  have htoken : token? (.map entries) =
      ((["token", "accessToken", "access_token"].find? fun f =>
        (entries.get? (.str f)).any Value.truthy).bind fun f => entries.get? (.str f)) :=
    List.find?_filterMap
  rw [htoken, Option.bind_eq_some_iff]
  constructor
  · rintro ⟨field, hfound, hv⟩
    obtain ⟨htruthy, before, after, hfields, hearlier⟩ := List.find?_eq_some_iff_append.1 hfound
    rw [hv] at htruthy
    refine ⟨before, field, after, hfields, hv, htruthy, fun earlier hmem w hw => ?_⟩
    have hfalsy := hearlier earlier hmem
    rw [hw] at hfalsy
    simpa using hfalsy
  · rintro ⟨before, field, after, hfields, hv, htruthy, hearlier⟩
    refine ⟨field, List.find?_eq_some_iff_append.2 ⟨?_, before, after, hfields, ?_⟩, hv⟩
    · rw [hv]
      exact htruthy
    · intro earlier hmem
      cases hw : entries.get? (.str earlier) with
      | none => rfl
      | some w => simp [hearlier earlier hmem w hw]

/-- What is no object holds no token. -/
lemma exists_map_of_token? {v token : Value} (h : token? v = some token) :
    ∃ entries, v = .map entries := by
  cases v with
  | map entries => exact ⟨entries, rfl⟩
  | scalar _ | list _ | tuple _ | view _ | set _ => cases h

/-- The content is an object with the token in it. -/
inductive Body.Holds : Body → Value → Prop
  | object {text : String} {entries : Entries} {token : Value}
      (read : Json.readChars text.toList = .ok (.map entries))
      (first : IsFirstToken entries token) : Holds (.text text) token

/-- The reply grants the token: it is an answer with a status that is no error, and its content
holds the token. -/
inductive Reply.Grants : Reply → Value → Prop
  | answer {status : Int} {body : Body} {token : Value} (accepted : ¬(400 ≤ status ∧ status < 600))
      (held : body.Holds token) : Grants (.answer status body) token

/-- A content without a token is refused, whatever it is. -/
lemma Body.token_cases (post : Post) (body : Body) :
    (∃ v, body.token post = .ok v ∧ body.Holds v) ∨
      ∃ e, body.token post = .error (.refused e) ∧ ∀ v, ¬body.Holds v := by
  cases body with
  | unreadable => exact .inr ⟨_, rfl, nofun⟩
  | text s =>
    cases hread : Json.readChars s.toList with
    | error f =>
      have hnone : ∀ v, ¬(Body.text s).Holds v := by
        rintro v ⟨read, -⟩
        cases hread.symm.trans read
      refine .inr ?_
      unfold Body.token
      simp only [hread]
      split
      · exact ⟨_, rfl, hnone⟩
      · exact ⟨_, rfl, hnone⟩
      · next heq => cases heq
    | ok v =>
      unfold Body.token
      simp only [hread]
      cases htoken : token? v with
      | some token =>
        obtain ⟨entries, rfl⟩ := exists_map_of_token? htoken
        exact .inl ⟨token, rfl, .object hread (token?_map_eq_some_iff.1 htoken)⟩
      | none =>
        refine .inr ⟨_, rfl, ?_⟩
        rintro token ⟨read, first⟩
        cases hread.symm.trans read
        cases htoken.symm.trans (token?_map_eq_some_iff.2 first)

/-- A reply that grants nothing is a refusal, which tells the status if it is that of an error. -/
lemma Reply.token_cases (post : Post) (reply : Reply) :
    (∃ v, reply.token post = .ok v ∧ reply.Grants v) ∨
      ∃ e, reply.token post = .error (.refused e) ∧ (∀ v, ¬reply.Grants v) ∧
        ∀ status body, reply = .answer status body → 400 ≤ status ∧ status < 600 →
          e.message = s!"Login rejected for {post.identifier} (status={status})" := by
  cases reply with
  | answer status body =>
    by_cases hstatus : 400 ≤ status ∧ status < 600
    · refine .inr ⟨_, if_pos (decide_eq_true hstatus), ?_, ?_⟩
      · rintro v ⟨accepted, -⟩
        exact accepted hstatus
      · rintro _ _ ⟨⟩ -
        rfl
    · have htoken : (Reply.answer status body).token post = body.token post :=
        if_neg (by simpa [isRefusal] using hstatus)
      rw [htoken]
      rcases Body.token_cases post body with ⟨v, hv, held⟩ | ⟨e, he, hnone⟩
      · exact .inl ⟨v, hv, .answer hstatus held⟩
      · refine .inr ⟨e, he, ?_, ?_⟩
        · rintro v ⟨-, held⟩
          exact hnone v held
        · rintro _ _ ⟨⟩ herror
          exact absurd herror hstatus
  | refused | broken kind message | garbled => exact .inr ⟨_, rfl, nofun, nofun⟩

/-! ### What comes of it -/

/-- How a login ends, and what it makes of the traffic. -/
inductive Ends (c : RunConfig) (o : LoginOptions) (reply : Reply) (t : Traffic) :
    Traffic → Outcome HttpSession → Prop
  | unready {e : CreationError} (missing : (∀ who, ¬ActsAs c o who) ∨ c.apiUrl = "") :
      Ends c o reply t t (.error (.refused e))
  | overflow {who : Credentials} (actor : ActsAs c o who) (address : c.apiUrl ≠ "")
      (unbounded : o.timeout? = none ∧ HasHugeSetting c) : Ends c o reply t t (.error .overflow)
  | refused {who : Credentials} {post : Post} {e : CreationError} (ready : Ready c o who)
      (sent : post.IsFor c who) (ungranted : ∀ token, ¬reply.Grants token)
      (told : ∀ status body, reply = .answer status body → 400 ≤ status ∧ status < 600 →
        e.message = s!"Login rejected for {post.identifier} (status={status})") :
      Ends c o reply t ⟨t.opened + 1, t.closed ++ [t.opened + 1], t.posts ++ [post]⟩
        (.error (.refused e))
  | accepted {who : Credentials} {post : Post} {token : Value} {text : String}
      (ready : Ready c o who) (sent : post.IsFor c who) (granted : reply.Grants token)
      (written : token.plain? = some text) :
      Ends c o reply t ⟨t.opened + 1, t.closed, t.posts ++ [post]⟩ (.ok ⟨t.opened + 1, text⟩)

lemma ends_login (c : RunConfig) (o : LoginOptions) (reply : Reply) (t : Traffic) :
    Ends c o reply t (login c o reply t).traffic (login c o reply t).outcome := by
  have hprepared := prepared c o
  unfold login
  cases hprepare : Post.prepare c o with
  | error f =>
    rw [hprepare] at hprepared
    cases hprepared with
    | unready missing => exact .unready missing
    | overflow actor address unbounded => exact .overflow actor address unbounded
  | ok post =>
    rw [hprepare] at hprepared
    cases hprepared with
    | ready ready sent =>
      dsimp only
      rcases Reply.token_cases post reply with ⟨v, hv, granted⟩ | ⟨e, he, ungranted, told⟩
      · obtain ⟨text, written⟩ := (Reply.isWritable_of_token hv).exists_plain?
        simp only [hv, written]
        exact .accepted ready sent granted written
      · rw [he]
        exact .refused ready sent ungranted told

/-! ### Every login -/

lemma ActsAs.unique {other : Credentials} (h : ActsAs c o who) (hother : ActsAs c o other) :
    who = other := (actsAs_iff.1 h).1.symm.trans (actsAs_iff.1 hother).1

/-- A reply grants no two tokens. -/
lemma Reply.Grants.unique {v w : Value} (hv : reply.Grants v) (hw : reply.Grants w) : v = w := by
  obtain ⟨-, ⟨read, first⟩⟩ := hv
  obtain ⟨-, ⟨read', first'⟩⟩ := hw
  cases read.symm.trans read'
  exact Option.some.inj
    ((token?_map_eq_some_iff.2 first).symm.trans (token?_map_eq_some_iff.2 first'))

lemma Reply.Grants.isWritable {v : Value} (h : reply.Grants v) : v.IsWritable := by
  obtain ⟨-, ⟨read, before, field, after, -, hv, -⟩⟩ := h
  exact (Value.isWritable_map.1 (Json.isWritable_of_readChars read)).of_get? hv

lemma not_ready_of_missing (missing : (∀ who, ¬ActsAs c o who) ∨ c.apiUrl = "") :
    ¬Ready c o who := by
  intro ready
  rcases missing with hnobody | hnowhere
  · exact hnobody who ready.actor
  · exact ready.address hnowhere

/-- What holds of every login. -/
structure Classified (c : RunConfig) (o : LoginOptions) (reply : Reply) (t t' : Traffic)
    (outcome : Outcome HttpSession) : Prop where
  /-- The session of the request is returned just if it is posted and the reply grants a token. -/
  returned : ∀ h, outcome = .ok h ↔ (∃ who, Ready c o who) ∧
    (∃ token, reply.Grants token ∧ token.plain? = some h.token) ∧ h.number = t.opened + 1
  /-- A token that is granted has a text. -/
  written : ∀ token, reply.Grants token → ∃ text, token.plain? = some text
  authorized : ∀ h, outcome = .ok h →
    h.headers.lookup "Authorization" = some ("Bearer " ++ h.token)
  /-- All errors but one are refusals. -/
  raised : ∀ f, outcome = .error f → (∃ e, f = .refused e) ∨ f = .overflow
  /-- The other one comes of a time to wait that is too large for a number. -/
  overflows : outcome = .error .overflow ↔
    (∃ who, ActsAs c o who) ∧ c.apiUrl ≠ "" ∧ o.timeout? = none ∧ HasHugeSetting c
  /-- The refusal by an answer tells its status. -/
  rejected : ∀ who status body, Ready c o who → reply = .answer status body →
    400 ≤ status ∧ status < 600 →
      ∃ e, outcome = .error (.refused e) ∧
        e.message = s!"Login rejected for {who.identifier} (status={status})"
  /-- A login that is ready opens one session and posts its credentials. -/
  posted : ∀ who, Ready c o who → t'.opened = t.opened + 1 ∧
    ∃ post : Post, post.IsFor c who ∧ t'.posts = t.posts ++ [post]
  /-- A login that is not ready does nothing. -/
  unposted : (∀ who, ¬Ready c o who) → t' = t
  /-- A session that is returned is still open. -/
  kept : ∀ h, outcome = .ok h → t'.closed = t.closed
  /-- A session that is opened and not returned is closed, once. -/
  closed : ∀ who f, Ready c o who → outcome = .error f → t'.closed = t.closed ++ [t.opened + 1]

namespace Ends

variable {t' : Traffic} {outcome : Outcome HttpSession}

lemma returned_iff (h : Ends c o reply t t' outcome) (session : HttpSession) :
    outcome = .ok session ↔ (∃ who, Ready c o who) ∧
      (∃ token, reply.Grants token ∧ token.plain? = some session.token) ∧
        session.number = t.opened + 1 := by
  cases h with
  | unready missing =>
    refine iff_of_false nofun ?_
    rintro ⟨⟨who, ready⟩, -⟩
    exact not_ready_of_missing missing ready
  | overflow actor address unbounded =>
    refine iff_of_false nofun ?_
    rintro ⟨⟨who, ready⟩, -⟩
    exact ready.timely unbounded
  | refused ready sent ungranted told =>
    refine iff_of_false nofun ?_
    rintro ⟨-, ⟨token, granted, -⟩, -⟩
    exact ungranted token granted
  | accepted ready sent granted written =>
    constructor
    · rintro ⟨⟩
      exact ⟨⟨_, ready⟩, ⟨_, granted, written⟩, rfl⟩
    · rintro ⟨-, ⟨other, hgranted, hwritten⟩, hnumber⟩
      obtain ⟨number, text⟩ := session
      obtain rfl := granted.unique hgranted
      obtain rfl := Option.some.inj (written.symm.trans hwritten)
      obtain rfl := hnumber
      rfl

lemma overflows_iff (h : Ends c o reply t t' outcome) :
    outcome = .error .overflow ↔
      (∃ who, ActsAs c o who) ∧ c.apiUrl ≠ "" ∧ o.timeout? = none ∧ HasHugeSetting c := by
  cases h with
  | unready missing =>
    refine iff_of_false nofun ?_
    rintro ⟨⟨who, actor⟩, address, -⟩
    rcases missing with hnobody | hnowhere
    · exact hnobody who actor
    · exact address hnowhere
  | overflow actor address unbounded => exact iff_of_true rfl ⟨⟨_, actor⟩, address, unbounded⟩
  | refused ready | accepted ready =>
    refine iff_of_false nofun ?_
    rintro ⟨-, -, unbounded⟩
    exact ready.timely unbounded

/-- With an error the session of the request is closed, and there is no error but a refusal. -/
lemma refused_of_ready (h : Ends c o reply t t' outcome) (ready : Ready c o who) {f : Fault}
    (hf : outcome = .error f) :
    t'.closed = t.closed ++ [t.opened + 1] ∧ ∃ e, f = .refused e ∧
      ∀ status body, reply = .answer status body → 400 ≤ status ∧ status < 600 →
        e.message = s!"Login rejected for {who.identifier} (status={status})" := by
  cases h with
  | unready missing => exact absurd ready (not_ready_of_missing missing)
  | overflow actor address unbounded => exact absurd unbounded ready.timely
  | refused ready' sent ungranted told =>
    cases hf
    obtain rfl := ready'.actor.unique ready.actor
    refine ⟨rfl, _, rfl, fun status body hreply herror => ?_⟩
    rw [told status body hreply herror, sent.identifier]
  | accepted => cases hf

lemma posted (h : Ends c o reply t t' outcome) (ready : Ready c o who) :
    t'.opened = t.opened + 1 ∧ ∃ post : Post, post.IsFor c who ∧ t'.posts = t.posts ++ [post] := by
  cases h with
  | unready missing => exact absurd ready (not_ready_of_missing missing)
  | overflow actor address unbounded => exact absurd unbounded ready.timely
  | refused ready' sent | accepted ready' sent =>
    obtain rfl := ready'.actor.unique ready.actor
    exact ⟨rfl, _, sent, rfl⟩

lemma classified (h : Ends c o reply t t' outcome) : Classified c o reply t t' outcome where
  returned := h.returned_iff
  written token granted := granted.isWritable.exists_plain?
  authorized session _ := rfl
  raised f hf := by
    cases h with
    | unready | refused =>
      cases hf
      exact .inl ⟨_, rfl⟩
    | overflow =>
      cases hf
      exact .inr rfl
    | accepted => cases hf
  overflows := h.overflows_iff
  rejected who status body ready hreply herror := by
    cases houtcome : outcome with
    | error f =>
      obtain ⟨-, e, rfl, told⟩ := h.refused_of_ready ready houtcome
      exact ⟨e, rfl, told status body hreply herror⟩
    | ok session =>
      obtain ⟨-, ⟨token, granted, -⟩, -⟩ := (h.returned_iff session).1 houtcome
      rw [hreply] at granted
      obtain ⟨accepted, -⟩ := granted
      exact absurd herror accepted
  posted who ready := h.posted ready
  unposted hnone := by
    cases h with
    | unready | overflow => rfl
    | refused ready | accepted ready => exact absurd ready (hnone _)
  kept session hsession := by
    cases h with
    | accepted => rfl
    | unready | overflow | refused => cases hsession
  closed who f ready hf := (h.refused_of_ready ready hf).1

end Ends

/-- How a login ends, whatever the configuration, the options and the reply are. It returns a
session just if there are an actor and an address, the time to wait can be taken as a number, and
the reply grants a token; the session carries the text of that token. Otherwise it is refused,
unless it fails because of the time to wait. A session that is opened and not returned is closed
once. -/
theorem login_classified (c : RunConfig) (o : LoginOptions) (reply : Reply) (t : Traffic) :
    Classified c o reply t (login c o reply t).traffic (login c o reply t).outcome :=
  (ends_login c o reply t).classified

/-- A configuration with a time to wait that is too large for a number. -/
def hugeSettingConfig : RunConfig :=
  { Sessions.actorConfig with
    settings := [(.str "responseTimeout", .scalar (.int (2 ^ 1024 : Nat)))] }

lemma hasHugeSetting : HasHugeSetting hugeSettingConfig :=
  ⟨(2 ^ 1024 : Nat), rfl, Int.ofNat_le.2 Binary64.overflowBound_bounds.2⟩

lemma granted_tokenReply : ∃ token, Sessions.tokenReply.Grants token := by
  let post : Post := ⟨"", "", "", defaultTimeout⟩
  rcases Reply.token_cases post Sessions.tokenReply with ⟨token, -, granted⟩ | ⟨e, hrefused, -⟩
  · exact ⟨token, granted⟩
  · have hok : (Sessions.tokenReply.token post).isOk = true := by cbv
    rw [hrefused] at hok
    cases hok

/-- With such a configuration an actor with an address is not logged in although the reply grants a
token, and the login is not refused either. -/
theorem login_fails_of_huge_setting :
    (∃ who, ActsAs hugeSettingConfig .default who) ∧ hugeSettingConfig.apiUrl ≠ "" ∧
      (∃ token, Sessions.tokenReply.Grants token) ∧
      (∀ h, (login hugeSettingConfig .default Sessions.tokenReply .none).outcome ≠ .ok h) ∧
      ∀ e, (login hugeSettingConfig .default Sessions.tokenReply .none).outcome ≠
        .error (.refused e) := by
  have hactor : ActsAs hugeSettingConfig .default hugeSettingConfig.credentials :=
    .configured nofun (by decide)
  have haddress : hugeSettingConfig.apiUrl ≠ "" := by decide
  have hends := ends_login hugeSettingConfig .default Sessions.tokenReply .none
  have houtcome := hends.overflows_iff.2 ⟨⟨_, hactor⟩, haddress, rfl, hasHugeSetting⟩
  refine ⟨⟨_, hactor⟩, haddress, granted_tokenReply, fun h hh => ?_, fun e he => ?_⟩
  · cases houtcome.symm.trans hh
  · cases houtcome.symm.trans he

end TaggedSuite.Session
