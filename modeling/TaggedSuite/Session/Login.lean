import TaggedSuite.Session.Cache.Run
import TaggedSuite.Session.Exchange

/-!
# Logging in

Every login that gets as far as a request opens an HTTP session. A login that is refused closes it
again.
A cached login goes through the session cache, so that an actor logs in once.
-/
namespace TaggedSuite.Session

/-- An HTTP session that is logged in. Sessions are numbered in the order in which they were opened.
-/
structure HttpSession where
  number : Nat
  /-- The token as a text. -/
  token : String
  deriving Repr, Inhabited

namespace HttpSession

/-- The headers that go out with every request of the session. -/
def headers (h : HttpSession) : List (String × String) :=
  [("Content-Type", "application/json"), ("Accept", "application/json"),
    ("Authorization", "Bearer " ++ h.token)]

instance : Closable HttpSession where
  closing _ := .succeeds

end HttpSession

structure Traffic where
  /-- The number of sessions that were opened. -/
  opened : Nat
  /-- The numbers of the sessions that were closed, in order. -/
  closed : List Nat
  posts : List Post
  deriving Repr

/-- What has gone over the wire before the first login. -/
def Traffic.none : Traffic := ⟨0, [], []⟩

/-- What came of a login: the traffic after it, what it wrote to the log, and the session. -/
structure LoginAttempt where
  traffic : Traffic
  log : List LogLine
  outcome : Outcome HttpSession

/-- Logs in. The reply is asked for when there is a request. A token without a text leaves the
session open. -/
def login (c : RunConfig) (o : LoginOptions) (reply : Reply) (t : Traffic) : LoginAttempt :=
  match Post.prepare c o with
  | .error f => ⟨t, [], .error f⟩
  | .ok post =>
    let number := t.opened + 1
    let t := { t with opened := number, posts := t.posts ++ [post] }
    let posting := LogLine.debug s!"API login POST {post.url} as {post.identifier}"
    match reply.token post with
    | .ok token =>
      match token.plain? with
      | some text =>
        ⟨t, [posting, .info s!"Logged in as {post.identifier} on '{c.label}'"], .ok ⟨number, text⟩⟩
      | none => ⟨t, [posting], .error (.failed .badValue Numeral.unwritableText)⟩
    | .error f => ⟨{ t with closed := t.closed ++ [number] }, [posting], .error f⟩

/-- The sessions of a run: the cache, and what has gone over the wire. -/
structure Sessions where
  cache : Cache.State HttpSession
  traffic : Traffic

namespace Sessions

def none : Sessions := ⟨.empty, .none⟩

def loginKey (c : RunConfig) (o : LoginOptions) (actor? : Option String) : SessionKey :=
  let who := effectiveCredentials c o.credentials?
  .ofCredentials who.identifier who.secret actor?

/-- Logs in without the cache. -/
def direct (s : Sessions) (c : RunConfig) (o : LoginOptions) (reply : Reply) :
    Sessions × Outcome HttpSession :=
  let a := login c o reply s.traffic
  (⟨a.log.foldl Cache.State.say s.cache, a.traffic⟩, a.outcome)

/-- Logs in if the session is not in the cache yet. The credentials that make the key are handed on.
-/
def cached (s : Sessions) (c : RunConfig) (o : LoginOptions) (actor? : Option String)
    (reply : Reply) : Sessions × Option (Cache.Result HttpSession) :=
  let key := loginKey c o actor?
  let handedOn := { o with credentials? := some (effectiveCredentials c o.credentials?) }
  let (cache, result?, traffic?) := s.cache.getOrCreate (.session key) fun cache =>
    let a := login c handedOn reply s.traffic
    (a.log.foldl Cache.State.say cache, a.outcome, a.traffic)
  (⟨cache, traffic?.getD s.traffic⟩, result?)

/-- Runs a call on the cache that creates nothing. The sessions that it closes count as closed. -/
def request (s : Sessions) (r : Cache.Request) : Sessions × Option (Cache.Result HttpSession) :=
  let (cache, result?) := s.cache.request r
  let closed := (cache.closed.drop s.cache.closed.length).map (·.number)
  (⟨cache, { s.traffic with closed := s.traffic.closed ++ closed }⟩, result?)

inductive Call where
  | direct (o : LoginOptions)
  | cached (o : LoginOptions) (actor? : Option String)
  | invalidateActor (actor : String)
  | clear

/-- Runs a call. A login that is not cached ends like a creation. -/
def call (s : Sessions) (c : RunConfig) (reply : Reply) :
    Call → Sessions × (Outcome HttpSession ⊕ Option (Cache.Result HttpSession))
  | .direct o =>
    let (s, outcome) := s.direct c o reply
    (s, .inl outcome)
  | .cached o actor? =>
    let (s, result?) := s.cached c o actor? reply
    (s, .inr result?)
  | .invalidateActor actor =>
    let (s, result?) := s.request (.invalidateActor actor)
    (s, .inr result?)
  | .clear =>
    let (s, result?) := s.request .clear
    (s, .inr result?)

/-- The reply to a request when there is no other. -/
def noReply : Reply := .broken (.named "unanswered") ""

/-- Runs calls in order. Each request takes the next reply. After each call the sessions are given
with what the call ended with. -/
def run (c : RunConfig) : Sessions → List Reply → List Call →
    List (Sessions × (Outcome HttpSession ⊕ Option (Cache.Result HttpSession)))
  | _, _, [] => []
  | s, replies, k :: rest =>
    let (t, result) := s.call c (replies.headD noReply) k
    let replies := replies.drop (t.traffic.posts.length - s.traffic.posts.length)
    (t, result) :: run c t replies rest

end Sessions

end TaggedSuite.Session
