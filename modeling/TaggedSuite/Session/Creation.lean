import TaggedSuite.Session.CacheKey

/-!
# How the creation of a session ends

A creation returns a handle or ends with a fault. What the caller of the cache gets to see of a
fault is decided here too.
-/
namespace TaggedSuite.Session

/-- What kind of error is behind a failed creation. -/
inductive ErrorKind where
  /-- A kind that the creation names itself. -/
  | named (name : String)
  /-- The service refused the request. -/
  | refusedRequest
  /-- The text of an answer does not keep to its format. -/
  | malformedText
  /-- A value cannot be used. -/
  | badValue
  /-- A number is too large for its format. -/
  | overflow
  deriving DecidableEq, Repr, Inhabited

/-- The error that a failed creation is reported with. -/
structure CreationError where
  message : String
  /-- The key that the session was to be cached under. -/
  key? : Option CacheKey
  /-- The kind of the error behind this one. -/
  cause? : Option ErrorKind
  deriving DecidableEq, Repr, Inhabited

/-- How a creation can fail. -/
inductive Fault where
  /-- The creation says itself what went wrong. -/
  | refused (e : CreationError)
  /-- An error of another kind. -/
  | failed (kind : ErrorKind) (message : String)
  /-- The run was interrupted, which is no error of the creation. -/
  | interrupted (kind : ErrorKind) (message : String)
  deriving DecidableEq, Repr

/-- What the caller gets to see of a failed creation. -/
inductive Raised where
  | error (e : CreationError)
  | interrupted (kind : ErrorKind) (message : String)
  deriving DecidableEq, Repr

namespace Fault

def message : Fault → String
  | refused e => e.message
  | failed _ message | interrupted _ message => message

def isFailure : Fault → Bool
  | interrupted .. => false
  | _ => true

/-- What the caller gets to see: an error of the creation itself learns the key if it has none, and
any other one is wrapped. -/
def raised (key : CacheKey) : Fault → Raised
  | refused e => .error { e with key? := e.key? <|> some key }
  | failed kind message =>
    .error ⟨s!"Session creation failed for {key.text}: {message}", some key, some kind⟩
  | interrupted kind message => .interrupted kind message

end Fault

/-- How a creation ends. -/
abbrev Outcome (η : Type) := Except Fault η

/-- What happens when a handle is closed. -/
inductive Closing where
  /-- The handle has no way to be closed. -/
  | absent
  | succeeds
  | fails (message : String)
  deriving DecidableEq, Repr

/-- Handles that can be asked what closing them does. -/
class Closable (η : Type) where
  closing : η → Closing

end TaggedSuite.Session
