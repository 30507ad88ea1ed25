import TaggedSuite.Session.Cache.Basic

/-!
# Steps of the calls on a session cache

A step belongs to one call. Which call takes the next step is not determined, and neither is how a
running creation ends.
-/
namespace TaggedSuite.Session.Cache

/-- A step: a call begins, a call goes on, or the creation of a call ends. -/
inductive Action (η : Type) where
  | start (r : Request)
  | advance (call : Nat)
  | finish (call : Nat) (outcome : Outcome η)

namespace State
variable {η : Type}

/-- The first look of a call that gets or creates a session: it ends with the entry, or it registers
for the lock of the key. -/
def startCreation (s : State η) (key : CacheKey) : State η :=
  match s.entry? key with
  | some e =>
    (s.countHit.say (.debug s!"Session cache hit: {key.text}")).join (.done (.handle e.handle))
  | none =>
    let (s, lock) := s.register key
    s.join (.waiting key lock)

/-- Takes the entry of a key out. -/
def startInvalidation (s : State η) (key : CacheKey) : State η :=
  match s.entry? key with
  | some e =>
    { s with entries := s.entries.filter fun e => !e.key.same key }.join (.releasing [e] (.key key))
  | none =>
    (s.say (.debug s!"Session not cached, nothing to invalidate: {key.text}")).join
      (.done (.removed false))

/-- Takes the entries of an actor out. Nothing is taken out if a key belongs to no actor. -/
def startActorInvalidation (s : State η) (actor : String) : State η :=
  match s.entries.find? fun e => e.key.actor?.isNone with
  | some e => s.join (.done (.noActor e.key.kindName))
  | none =>
    let evicted := s.entries.filter fun e => e.key.actor? == some actor
    { s with entries := s.entries.filter fun e => !(e.key.actor? == some actor) }.join
      (.releasing evicted (.actor actor evicted.length))

/-- Ends a call at once because nothing can be cached under the key. -/
def reject (s : State η) (key : CacheKey) : State η := s.join (.done (.unhashable key.kindName))

/-- The first step of a call. An empty cache has nothing to take out, whatever the key is. -/
def start (s : State η) : Request → State η
  | .getOrCreate key => if key.isHashable then s.startCreation key else s.reject key
  | .get key => if key.isHashable then s.join (.done (.found (s.entry? key))) else s.reject key
  | .contains key =>
    if key.isHashable then s.join (.done (.present (s.entry? key).isSome)) else s.reject key
  | .invalidate key =>
    if key.isHashable || s.entries.isEmpty then s.startInvalidation key else s.reject key
  | .invalidateActor actor => s.startActorInvalidation actor
  | .clear => { s with entries := [] }.join (.releasing s.entries (.all s.entries.length))

/-- The time that a creation took is not kept; this stands for it in the log. -/
def elapsedMark : String := "<t>"

/-- The next step of a call, unless the call waits for something or has come to its end. -/
def advance [Closable η] (s : State η) (call : Nat) : Option (State η) := do
  match ← s.calls[call]? with
  | .waiting key lock =>
    if lock ∈ s.held then none
    else some ({ s with held := lock :: s.held }.move call (.holding key lock))
  | .holding key lock =>
    match s.entry? key with
    | some e => some (s.countHit.move call (.unlocking key lock (.handle e.handle)))
    | none => some (s.countMiss.move call (.missed key lock))
  | .missed key lock =>
    some ((s.say (.info s!"Creating session for {key.text}")).move call (.creating key lock))
  | .creating .. => none
  | .created key lock h =>
    some (((s.store ⟨key, h⟩).say
      (.info s!"Session created for {key.text} in {elapsedMark}s")).move call
        (.unlocking key lock (.handle h)))
  | .failed key lock f =>
    some ((s.countFailure.say
      (.warning s!"Session creation failed for {key.text}: {f.message}")).move call
        (.unlocking key lock (.raised (f.raised key))))
  | .unlocking key lock r =>
    some ({ s with held := s.held.erase lock }.move call (.leaving key lock r))
  | .leaving _ lock r => some ((s.deregister lock).move call (.done r))
  | .releasing (e :: rest) why => some ((s.release e).move call (.releasing rest why))
  | .releasing [] why =>
    some ({ s with log := s.log ++ s.evictionLog why }.move call (.done (evictionResult why)))
  | .done _ => none

/-- The end of a running creation. An interruption is not recorded. -/
def finish (s : State η) (call : Nat) (outcome : Outcome η) : Option (State η) := do
  match ← s.calls[call]? with
  | .creating key lock =>
    match outcome with
    | .ok h => some (s.move call (.created key lock h))
    | .error f =>
      if f.isFailure then some (s.move call (.failed key lock f))
      else some (s.move call (.unlocking key lock (.raised (f.raised key))))
  | _ => none

/-- The state after a step, if the step is possible. -/
def perform [Closable η] (s : State η) : Action η → Option (State η)
  | .start r => some (s.start r)
  | .advance call => s.advance call
  | .finish call outcome => s.finish call outcome

end State

/-- The states that calls can lead to, in whatever order their steps are taken. -/
inductive Reachable {η : Type} [Closable η] : State η → Prop where
  | empty : Reachable .empty
  | step {s t : State η} (a : Action η) : Reachable s → s.perform a = some t → Reachable t

end TaggedSuite.Session.Cache
