import TaggedSuite.Config.Basic
import TaggedSuite.Json.Reader
import TaggedSuite.Session.Creation

/-!
# One exchange with the login service

A login posts the credentials once and reads a token from the answer. What is posted depends on the
configuration only, and what comes of it on the answer only.
-/
namespace TaggedSuite.Session

structure LoginOptions where
  /-- The actor; without one, that of the environment is taken. -/
  credentials? : Option Credentials
  /-- Where the service is found below the address of the environment. -/
  endpoint : String
  /-- How long to wait for an answer; without a value the settings decide. -/
  timeout? : Option Value
  deriving Repr

/-- The place of the service unless another one is asked for. -/
def defaultEndpoint : String := "/auth/login"

def LoginOptions.default : LoginOptions := ⟨none, defaultEndpoint, none⟩

structure Post where
  url : String
  identifier : String
  secret : String
  timeout : Value
  deriving Repr

/-- The content of an answer. -/
inductive Body where
  | text (s : String)
  /-- The content cannot even be looked at. -/
  | unreadable
  deriving DecidableEq, Repr

/-- What comes back for a request. -/
inductive Reply where
  | answer (status : Int) (body : Body)
  /-- The request was refused, without an answer to tell why. -/
  | refused
  /-- The request did not get through. -/
  | broken (kind : ErrorKind) (message : String)
  /-- Something else was wrong with a value on the way. -/
  | garbled
  deriving DecidableEq, Repr

/-- The credentials of a login: the given ones if there is an actor in them, or those of the
environment. -/
def effectiveCredentials (c : RunConfig) (given : Option Credentials) : Credentials :=
  match given with
  | some g => if g.isPresent then g else c.credentials
  | none => c.credentials

/-- The seconds to wait when nothing says otherwise. -/
def defaultTimeout : Value := .num (.ofInt 10)

/-- A number of milliseconds in seconds. An integer that is too large for a number cannot be taken.
-/
def secondsOfInt (i : Int) : Except Fault Value :=
  match (Binary64.ofInt i).classify with
  | .infinite _ => .error (.failed .overflow "int too large to convert to float")
  | _ => .ok (.num ((Binary64.ofInt i).divNat 1000))

/-- The seconds to wait that the settings ask for. Anything but a positive number is passed over. -/
def configuredTimeout (c : RunConfig) : Except Fault Value :=
  match c.settings.get? (.str "responseTimeout") with
  | some (.scalar (.bool true)) => secondsOfInt 1
  | some (.scalar (.int i)) => if 0 < i then secondsOfInt i else .ok defaultTimeout
  | some (.scalar (.num x)) =>
    if x.compareInt? 0 == some .gt then .ok (.num (x.divNat 1000)) else .ok defaultTimeout
  | _ => .ok defaultTimeout

/-- A refusal without an error behind it. -/
def refusal (message : String) : Fault := .refused ⟨message, none, none⟩

/-- A refusal because of an error of the given kind. -/
def refusalFrom (kind : ErrorKind) (message : String) : Fault :=
  .refused ⟨message, none, some kind⟩

/-- The text without slashes at its end. -/
def dropSlashesRight (s : String) : String :=
  String.ofList (s.toList.reverse.dropWhile (· == '/')).reverse

/-- The text without slashes at its beginning. -/
def dropSlashesLeft (s : String) : String := String.ofList (s.toList.dropWhile (· == '/'))

/-- The request of a login. Without an actor or an address there is none. -/
def Post.prepare (c : RunConfig) (o : LoginOptions) : Except Fault Post := do
  let who := effectiveCredentials c o.credentials?
  if !who.isPresent then
    throw (refusal s!"No credentials configured for environment '{c.name}'")
  if c.apiUrl = "" then throw (refusal s!"No apiUrl configured for environment '{c.name}'")
  let timeout ← match o.timeout? with
    | some t => pure t
    | none => configuredTimeout c
  return ⟨s!"{dropSlashesRight c.apiUrl}/{dropSlashesLeft o.endpoint}", who.identifier, who.secret,
    timeout⟩

/-- The fields that may hold the token, in the order in which they are looked at. -/
def tokenFields : List String := ["token", "accessToken", "access_token"]

/-- The token of an answer: the first of the fields that counts as true. -/
def token? : Value → Option Value
  | .map entries =>
    (tokenFields.filterMap fun f => Entries.get? entries (.str f)).find? Value.truthy
  | _ => none

/-- Whether a status tells that the request was refused. -/
def isRefusal (status : Int) : Bool := decide (400 ≤ status ∧ status < 600)

def Body.token (post : Post) : Body → Except Fault Value
  | .unreadable => .error (refusalFrom .badValue s!"Login response from {post.url} is not JSON")
  | .text s =>
    match Json.readChars s.toList with
    | .error ⟨.numeral _, _⟩ =>
      .error (refusalFrom .badValue s!"Login response from {post.url} is not JSON")
    | .error f =>
      .error (refusalFrom .malformedText
        s!"Login request to {post.url} failed: {f.message s.toList}")
    | .ok v =>
      match token? v with
      | some t => .ok t
      | none =>
        let fields := ", ".intercalate tokenFields
        .error (refusal
          s!"Login response from {post.url} contains no token (expected one of {fields})")

/-- The token that comes of a request. -/
def Reply.token (post : Post) : Reply → Except Fault Value
  | .answer status body =>
    if isRefusal status then
      .error (refusalFrom .refusedRequest
        s!"Login rejected for {post.identifier} (status={status})")
    else body.token post
  | .refused =>
    .error (refusalFrom .refusedRequest s!"Login rejected for {post.identifier} (status=None)")
  | .broken kind message =>
    .error (refusalFrom kind s!"Login request to {post.url} failed: {message}")
  | .garbled => .error (refusalFrom .badValue s!"Login response from {post.url} is not JSON")

end TaggedSuite.Session
