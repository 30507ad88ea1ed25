import TaggedSuite.Session.Cache.Step

/-!
# Running calls one after the other

A call that has nothing to wait for is taken to its end before the next one begins. While a creation
runs, it may call the cache itself; those calls run before the creation ends.
-/
namespace TaggedSuite.Session.Cache

/-- An upper bound for the steps that are left to a call, apart from the end of a creation. -/
def Phase.stepsLeft {η : Type} : Phase η → Nat
  | .waiting .. => 9
  | .holding .. => 8
  | .missed .. => 7
  | .creating .. => 6
  | .created .. | .failed .. => 5
  | .unlocking .. => 4
  | .leaving .. => 3
  | .releasing rest _ => rest.length + 2
  | .done _ => 1

namespace State
variable {η : Type} [Closable η]

/-- Takes at most the given number of steps of a call. -/
def advanceUpTo (call : Nat) : Nat → State η → State η
  | 0, s => s
  | n + 1, s =>
    match s.advance call with
    | some t => advanceUpTo call n t
    | none => s

/-- Takes steps of a call until it waits for something or has come to its end. -/
def settle (s : State η) (call : Nat) : State η :=
  match s.calls[call]? with
  | some p => s.advanceUpTo call p.stepsLeft
  | none => s

/-- The result of a call that has come to its end. -/
def result? (s : State η) (call : Nat) : Option (Result η) :=
  match s.calls[call]? with
  | some (.done r) => some r
  | _ => none

/-- Whether the creation of a call is running. -/
def isCreating (s : State η) (call : Nat) : Bool :=
  match s.calls[call]? with
  | some (.creating ..) => true
  | _ => false

/-- Runs a call that creates nothing. -/
def request (s : State η) (r : Request) : State η × Option (Result η) :=
  let call := s.calls.length
  let s := (s.start r).settle call
  (s, s.result? call)

/-- Runs a call that gets or creates a session. What the creation does and how it ends is only asked
when it runs; something it leaves behind is given back. -/
def getOrCreate {α : Type} (s : State η) (key : CacheKey)
    (create : State η → State η × Outcome η × α) : State η × Option (Result η) × Option α :=
  let call := s.calls.length
  let s := (s.start (.getOrCreate key)).settle call
  if s.isCreating call then
    let (s, outcome, left) := create s
    let s := ((s.finish call outcome).getD s).settle call
    (s, s.result? call, some left)
  else (s, s.result? call, none)

end State

/-- A call with what a creation does: calls of its own, and an end. -/
inductive Script (η : Type) where
  | request (r : Request)
  | create (key : CacheKey) (during : List (Script η)) (outcome : Outcome η)
  deriving Inhabited

/-- What came of a script. The calls of a creation have reports of their own if it ran. -/
inductive Report (η : Type) where
  | mk (result? : Option (Result η)) (during? : Option (List (Report η)))

mutual

def Script.run {η : Type} [Closable η] (s : State η) : Script η → State η × Report η
  | .request r =>
    let (s, result?) := s.request r
    (s, .mk result? none)
  | .create key during outcome =>
    let (s, result?, during?) := s.getOrCreate key fun s =>
      let (s, reports) := Script.runAll s during
      (s, outcome, reports)
    (s, .mk result? during?)

def Script.runAll {η : Type} [Closable η] (s : State η) :
    List (Script η) → State η × List (Report η)
  | [] => (s, [])
  | script :: rest =>
    let (s, report) := Script.run s script
    let (s, reports) := Script.runAll s rest
    (s, report :: reports)

end

/-- Takes each of the calls to its end. The creations among them are numbered from one on; says how
many ran. -/
def State.settleAll {η : Type} [Closable η] (attempt : Nat → Outcome η) :
    State η → Nat → List Nat → State η × Nat
  | s, ran, [] => (s, ran)
  | s, ran, call :: rest =>
    let s := s.settle call
    if s.isCreating call then
      let s := ((s.finish call (attempt (ran + 1))).getD s).settle call
      s.settleAll attempt (ran + 1) rest
    else s.settleAll attempt ran rest

/-- Lets a number of callers ask for the same key at once: all of them look for the entry before the
first creation ends. Says how many creations ran, and what the callers get. -/
def State.concurrent {η : Type} [Closable η] (s : State η) (key : CacheKey) (callers : Nat)
    (attempt : Nat → Outcome η) : State η × Nat × List (Option (Result η)) :=
  let calls := List.range' s.calls.length callers
  let s := calls.foldl (fun s _ => s.start (.getOrCreate key)) s
  let (s, ran) := s.settleAll attempt 0 calls
  (s, ran, calls.map s.result?)

end TaggedSuite.Session.Cache
