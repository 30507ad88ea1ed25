import TaggedSuite.Log
import TaggedSuite.Session.Creation

/-!
# The session cache

Any number of calls work on one cache at the same time. A call proceeds in steps, each of which
happens at once: a look into the registry, taking or giving back the lock of a key, the beginning
and the end of a creation, and closing a handle. The state says for every call how far it has come.

At most one creation runs for a key: a call that finds no entry registers for the lock of its key,
and the lock is there as long as a call is registered for it.
-/
namespace TaggedSuite.Session.Cache

/-- A handle with the key that it is cached under. -/
structure Entry (η : Type) where
  key : CacheKey
  handle : η
  deriving DecidableEq, Repr

structure Stats where
  hits : Nat
  misses : Nat
  creations : Nat
  failures : Nat
  deriving DecidableEq, Repr, Inhabited

/-- The counts before anything happened. -/
def Stats.zero : Stats := ⟨0, 0, 0, 0⟩

/-- The counts in the log. -/
def Stats.text (s : Stats) : String :=
  "\x7b'hits': " ++ toString s.hits ++ ", 'misses': " ++ toString s.misses ++ ", 'creations': " ++
    toString s.creations ++ ", 'failures': " ++ toString s.failures ++ "\x7d"

/-- The lock that the creations for a key take turns with, and the number of calls registered for
it. -/
structure Pending where
  key : CacheKey
  lock : Nat
  users : Nat
  deriving DecidableEq, Repr

/-- A call from outside. -/
inductive Request where
  | getOrCreate (key : CacheKey)
  | get (key : CacheKey)
  | contains (key : CacheKey)
  | invalidate (key : CacheKey)
  | invalidateActor (actor : String)
  | clear
  deriving DecidableEq, Repr

/-- What a call ends with. -/
inductive Result (η : Type) where
  | handle (h : η)
  | raised (r : Raised)
  | found (e : Option (Entry η))
  | present (b : Bool)
  | removed (b : Bool)
  | evicted (count : Nat)
  | cleared
  /-- Something is cached under a key that belongs to no actor. -/
  | noActor (kind : String)
  /-- Nothing can be cached under the key. -/
  | unhashable (kind : String)
  deriving DecidableEq, Repr

/-- The wording of a result that blames the caller or a key. -/
def Result.complaint? {η : Type} : Result η → Option String
  | .noActor kind => some s!"'{kind}' object has no attribute 'actor'"
  | .unhashable kind => some s!"unhashable type: '{kind}'"
  | _ => none

/-- Why entries are evicted. -/
inductive Eviction where
  | key (key : CacheKey)
  | actor (actor : String) (count : Nat)
  | all (count : Nat)
  deriving DecidableEq, Repr

/-- How far a call has come. -/
inductive Phase (η : Type) where
  /-- Registered for the lock of the key. -/
  | waiting (key : CacheKey) (lock : Nat)
  /-- Holds the lock. -/
  | holding (key : CacheKey) (lock : Nat)
  /-- Looked again and found no entry. -/
  | missed (key : CacheKey) (lock : Nat)
  /-- The creation is running. -/
  | creating (key : CacheKey) (lock : Nat)
  /-- The creation has returned a handle, which is not stored yet. -/
  | created (key : CacheKey) (lock : Nat) (h : η)
  /-- The creation has failed, which is not recorded yet. -/
  | failed (key : CacheKey) (lock : Nat) (f : Fault)
  /-- Has a result, and still holds the lock. -/
  | unlocking (key : CacheKey) (lock : Nat) (r : Result η)
  /-- Has given the lock back, and is still registered for it. -/
  | leaving (key : CacheKey) (lock : Nat) (r : Result η)
  /-- Has removed entries, some of which are still to be closed. -/
  | releasing (rest : List (Entry η)) (why : Eviction)
  | done (r : Result η)
  deriving DecidableEq, Repr

/-- The cache and the calls that work on it. -/
structure State (η : Type) where
  entries : List (Entry η)
  pending : List Pending
  stats : Stats
  /-- The locks that are held. -/
  held : List Nat
  /-- The number of locks made so far; a new lock gets this number as its name. -/
  lockCount : Nat
  /-- Every call so far, with how far it has come. -/
  calls : List (Phase η)
  /-- The handles that were closed, in order. -/
  closed : List η
  log : List LogLine
  deriving Repr

namespace State
variable {η : Type}

/-- The state before any call. -/
def empty : State η := ⟨[], [], .zero, [], 0, [], [], []⟩

def entry? (s : State η) (key : CacheKey) : Option (Entry η) :=
  s.entries.find? fun e => e.key.same key

/-- The lock that calls are registered for under a key. -/
def pending? (s : State η) (key : CacheKey) : Option Pending :=
  s.pending.find? fun p => p.key.same key

/-- Adds a line to the log. -/
def say (s : State η) (line : LogLine) : State η := { s with log := s.log ++ [line] }

/-- Adds a call that has come to the phase. -/
def join (s : State η) (p : Phase η) : State η := { s with calls := s.calls ++ [p] }

/-- Moves a call to another phase. -/
def move (s : State η) (call : Nat) (p : Phase η) : State η :=
  { s with calls := s.calls.set call p }

def countHit (s : State η) : State η :=
  { s with stats := { s.stats with hits := s.stats.hits + 1 } }

def countMiss (s : State η) : State η :=
  { s with stats := { s.stats with misses := s.stats.misses + 1 } }

/-- Counts a failure. -/
def countFailure (s : State η) : State η :=
  { s with stats := { s.stats with failures := s.stats.failures + 1 } }

/-- Puts an entry under its key, and counts a creation. -/
def store (s : State η) (e : Entry η) : State η :=
  { s with
    entries :=
      if (s.entry? e.key).isSome then
        s.entries.map fun old => if old.key.same e.key then e else old
      else s.entries ++ [e]
    stats := { s.stats with creations := s.stats.creations + 1 } }

/-- Registers for the lock under a key. A lock is made if there is none. -/
def register (s : State η) (key : CacheKey) : State η × Nat :=
  match s.pending? key with
  | some p =>
    ({ s with
        pending := s.pending.map fun q =>
          if q.lock = p.lock then { q with users := q.users + 1 } else q },
      p.lock)
  | none =>
    ({ s with pending := s.pending ++ [⟨key, s.lockCount, 1⟩], lockCount := s.lockCount + 1 },
      s.lockCount)

/-- Ends a registration for a lock. The lock goes with its last one. -/
def deregister (s : State η) (lock : Nat) : State η :=
  { s with
    pending := s.pending.filterMap fun q =>
      if q.lock ≠ lock then some q
      else if q.users ≤ 1 then none
      else some { q with users := q.users - 1 } }

/-- Closes the handle of an evicted entry. That closing fails is only worth a line in the log. -/
def release [Closable η] (s : State η) (e : Entry η) : State η :=
  match Closable.closing e.handle with
  | .absent => s
  | .succeeds => { s with closed := s.closed ++ [e.handle] }
  | .fails message =>
    { s with closed := s.closed ++ [e.handle] }.say
      (.warning s!"Closing session {e.key.text} failed: {message}")

/-- What an eviction writes to the log in the end. -/
def evictionLog (s : State η) : Eviction → List LogLine
  | .key key => [.info s!"Session invalidated: {key.text}"]
  | .actor actor count =>
    if count = 0 then [] else [.info s!"Invalidated {count} session(s) for actor '{actor}'"]
  | .all count =>
    [.info s!"Session cache cleared, {count} session(s) released, stats={s.stats.text}"]

/-- What the call that evicts entries ends with. -/
def evictionResult : Eviction → Result η
  | .key _ => .removed true
  | .actor _ count => .evicted count
  | .all _ => .cleared

end State

end TaggedSuite.Session.Cache
