import Mathlib.Tactic.Common
import TaggedSuite.Session.Cache.Basic

/-!
# Calls on a plain map

What the calls of the cache mean when they are made one at a time: a call is then a function of the
map, and of how its creation ends if it runs one. Nothing here knows of locks or of steps.
-/
namespace TaggedSuite.Session.Cache

variable {η : Type}

/-- Entries in the order in which they were put in. -/
abbrev PlainMap (η : Type) := List (Entry η)

/-- A call that takes effect. If it ran a creation, that has ended in the given way. -/
structure Decision (η : Type) where
  call : Nat
  request : Request
  creation? : Option (Outcome η)

namespace PlainMap

/-- The entry under a key. -/
def cached? (m : PlainMap η) (key : CacheKey) : Option (Entry η) :=
  m.find? fun e => e.key.same key

/-- Gets or creates a handle. A creation runs just when nothing is cached under the key, and only
its success changes the map. -/
def getOrCreate (m : PlainMap η) (key : CacheKey) (creation? : Option (Outcome η)) :
    Option (PlainMap η × Result η) :=
  if key.isHashable then
    match m.cached? key, creation? with
    | some e, none => some (m, .handle e.handle)
    | none, some (.ok h) => some (m ++ [⟨key, h⟩], .handle h)
    | none, some (.error f) => some (m, .raised (f.raised key))
    | _, _ => none
  else if creation?.isNone then some (m, .unhashable key.kindName)
  else none

section
variable {m m' : PlainMap η} {key : CacheKey} {r : Result η}

lemma getOrCreate_unhashable (hkey : key.isHashable = false) :
    m.getOrCreate key none = some (m, .unhashable key.kindName) := by
  simp [getOrCreate, hkey]

lemma getOrCreate_cached (hkey : key.isHashable = true) {e : Entry η}
    (h : m.cached? key = some e) {creation? : Option (Outcome η)} :
    m.getOrCreate key creation? = some (m', r) ↔
      creation? = none ∧ m' = m ∧ r = .handle e.handle := by
  unfold getOrCreate
  rw [if_pos hkey, h]
  cases creation? <;> simp [eq_comm]

lemma getOrCreate_absent (hkey : key.isHashable = true) (h : m.cached? key = none)
    {creation? : Option (Outcome η)} :
    m.getOrCreate key creation? = some (m', r) ↔
      (∃ handle, creation? = some (.ok handle) ∧ m' = m ++ [⟨key, handle⟩] ∧
        r = .handle handle) ∨
      ∃ f, creation? = some (.error f) ∧ m' = m ∧ r = .raised (f.raised key) := by
  unfold getOrCreate
  rw [if_pos hkey, h]
  rcases creation? with _ | f | handle <;> simp [eq_comm]

end

/-- Takes out the entry of a key. -/
def invalidate (m : PlainMap η) (key : CacheKey) : PlainMap η × Result η :=
  if key.isHashable || m.isEmpty then
    (m.filter fun e => !e.key.same key, .removed (m.cached? key).isSome)
  else (m, .unhashable key.kindName)

/-- Takes out the entries of an actor. -/
def invalidateActor (m : PlainMap η) (actor : String) : PlainMap η × Result η :=
  match m.find? fun e => e.key.actor?.isNone with
  | some e => (m, .noActor e.key.kindName)
  | none =>
    (m.filter fun e => !(e.key.actor? == some actor),
      .evicted (m.countP fun e => e.key.actor? == some actor))

/-- Makes a call. Gives nothing for a call that cannot have gone this way: it ran a creation without
need, or ran none where one is needed. -/
def call (m : PlainMap η) : Request → Option (Outcome η) → Option (PlainMap η × Result η)
  | .getOrCreate key, creation? => m.getOrCreate key creation?
  | .get key, none =>
    some (m, if key.isHashable then .found (m.cached? key) else .unhashable key.kindName)
  | .contains key, none =>
    some (m, if key.isHashable then .present (m.cached? key).isSome else .unhashable key.kindName)
  | .invalidate key, none => some (m.invalidate key)
  | .invalidateActor actor, none => some (m.invalidateActor actor)
  | .clear, none => some ([], .cleared)
  | _, some _ => none

/-- Makes calls one at a time. Gives the map after them, and what each call ended with. -/
def run (m : PlainMap η) : List (Decision η) → Option (PlainMap η × List (Nat × Result η))
  | [] => some (m, [])
  | d :: ds =>
    match m.call d.request d.creation? with
    | none => none
    | some (m, r) => (run m ds).map fun (m, results) => (m, (d.call, r) :: results)

variable {m m' : PlainMap η} {d : Decision η} {ds : List (Decision η)}
  {results : List (Nat × Result η)}

lemma run_cons : m.run (d :: ds) = some (m', results) ↔
    ∃ mid r rest, m.call d.request d.creation? = some (mid, r) ∧
      mid.run ds = some (m', rest) ∧ results = (d.call, r) :: rest := by
  rw [run]
  cases m.call d.request d.creation? with
  | none => exact iff_of_false nofun fun ⟨_, _, _, h, _⟩ => nomatch h
  | some a =>
    obtain ⟨mid, r⟩ := a
    simp only [Option.map_eq_some_iff, Option.some.injEq, Prod.mk.injEq]
    constructor
    · rintro ⟨⟨_, rest⟩, hrest, rfl, rfl⟩
      exact ⟨mid, r, rest, ⟨rfl, rfl⟩, hrest, rfl⟩
    · rintro ⟨_, _, rest, ⟨rfl, rfl⟩, hrest, rfl⟩
      exact ⟨(m', rest), hrest, rfl, rfl⟩

/-- Every call has one result. -/
lemma calls_of_run (h : m.run ds = some (m', results)) :
    results.map (·.1) = ds.map (·.call) := by
  induction ds generalizing m results with
  | nil =>
    cases h
    rfl
  | cons d ds ih =>
    obtain ⟨mid, r, rest, -, hrest, rfl⟩ := run_cons.mp h
    rw [List.map_cons, List.map_cons, ih hrest]

end PlainMap

end TaggedSuite.Session.Cache
