import TaggedSuite.Digest.Sha256

/-!
# Fingerprints of credentials

A fingerprint stands for a pair of identifier and secret where the secret itself must not appear. It
is the beginning of a digest of both, joined by a null character.
-/
namespace TaggedSuite

/-- The text that stands for a pair before it is digested. -/
def joinedCredentials (identifier secret : String) : String := identifier ++ "\x00" ++ secret

/-- The two hexadecimal digits of a byte. -/
def hexByte (b : UInt8) : List Char :=
  [Nat.digitChar (b.toNat / 16), Nat.digitChar (b.toNat % 16)]

/-- The first eight bytes of the digest of a text, in hexadecimal digits. -/
def shortDigest (s : String) : String :=
  String.ofList (((Sha256.digest s.toUTF8.toList).take 8).flatMap hexByte)

/-- The fingerprint of a pair of identifier and secret. -/
def fingerprint (identifier secret : String) : String :=
  shortDigest (joinedCredentials identifier secret)

end TaggedSuite
