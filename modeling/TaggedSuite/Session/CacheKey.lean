import TaggedSuite.Session.Key
import TaggedSuite.Value.Printer

/-!
# What sessions are cached under

Sessions are cached under session keys. Any other value without parts can stand in for one, but it
belongs to no actor. A value with parts can be asked for, but nothing is ever cached under it. Keys
are written to the log, so a value without a text is left out.
-/
namespace TaggedSuite

/-- A scalar that stands in for a session key. -/
structure ScalarKey where
  scalar : Scalar
  hasText : scalar.plain?.isSome = true
  deriving DecidableEq, Repr

def ScalarKey.text (k : ScalarKey) : String := k.scalar.plain?.get k.hasText

/-- What a session is cached under. -/
inductive CacheKey where
  | session (key : SessionKey)
  | scalar (key : ScalarKey)
  /-- A value with parts, by its kind and its text. -/
  | composite (kind text : String)
  deriving DecidableEq, Repr, Inhabited

namespace CacheKey

/-- Whether two keys have the same place in the cache. -/
def same : CacheKey → CacheKey → Bool
  | session a, session b => a == b
  | scalar a, scalar b => a.scalar.sameKey b.scalar
  | composite a b, composite c d => a == c && b == d
  | _, _ => false

@[simp] theorem same_self (a : CacheKey) : a.same a = true := by cases a <;> simp [same]

theorem same_comm (a b : CacheKey) : a.same b = b.same a := by
  cases a <;> cases b <;> simp [same, Scalar.sameKey_comm, Bool.beq_eq_decide_eq, eq_comm]

theorem same_trans {a b c : CacheKey} (hab : a.same b = true) (hbc : b.same c = true) :
    a.same c = true := by
  cases a <;> cases b <;> cases c <;> simp_all [same, Scalar.sameKey_iff]

@[simp] theorem same_session {a b : SessionKey} :
    (session a).same (session b) = true ↔ a = b := by simp [same]

def text : CacheKey → String
  | session k => k.text
  | scalar k => k.text
  | composite _ text => text

/-- Whether something can be cached under the key. -/
def isHashable : CacheKey → Bool
  | composite .. => false
  | _ => true

def actor? : CacheKey → Option String
  | session k => some k.actor
  | _ => none

/-- The name that messages give to the kind of a key. -/
def kindName : CacheKey → String
  | session _ => "SessionKey"
  | scalar k => (Value.scalar k.scalar).kindName
  | composite kind _ => kind

/-- The key that a value with a text stands for. -/
def ofValue? : Value → Option CacheKey
  | .scalar s => if h : s.plain?.isSome then some (.scalar ⟨s, h⟩) else none
  | v => v.plain?.map (.composite v.kindName)

end CacheKey

end TaggedSuite
