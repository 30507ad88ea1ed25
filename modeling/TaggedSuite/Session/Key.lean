import TaggedSuite.Session.Fingerprint
import TaggedSuite.Text.Quoted

/-!
# Session keys

A session belongs to an actor with certain credentials. Its key holds the fingerprint of the
credentials in place of the secret.
-/
namespace TaggedSuite

/-- What identifies one session. -/
structure SessionKey where
  actor : String
  fingerprint : String
  deriving DecidableEq, Repr, Inhabited

namespace SessionKey

/-- The key of a pair of identifier and secret. Without a label of its own the actor is named by
the identifier. -/
def ofCredentials (identifier secret : String) (actor : Option String) : SessionKey where
  actor := match actor with
    | some a => if a = "" then identifier else a
    | none => identifier
  fingerprint := TaggedSuite.fingerprint identifier secret

@[simp] theorem ofCredentials_fingerprint (identifier secret : String) (actor : Option String) :
    (ofCredentials identifier secret actor).fingerprint =
      TaggedSuite.fingerprint identifier secret := rfl

/-- A key in the log: the actor and the beginning of the fingerprint. -/
def text (k : SessionKey) : String :=
  k.actor ++ "#" ++ String.ofList (k.fingerprint.toList.take 8)

def shown (k : SessionKey) : String :=
  s!"SessionKey(actor={Text.quoted k.actor}, fingerprint={Text.quoted k.fingerprint})"

end SessionKey

end TaggedSuite
