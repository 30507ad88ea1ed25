/-!
# Bytes in sixty-four characters

Four characters write three bytes. Characters outside of the alphabet are passed over, and equals
signs fill up the last four.
-/
namespace TaggedSuite.Text

def sixBits? (c : Char) : Option Nat :=
  if 'A' ≤ c ∧ c ≤ 'Z' then some (c.toNat - 'A'.toNat)
  else if 'a' ≤ c ∧ c ≤ 'z' then some (c.toNat - 'a'.toNat + 26)
  else if '0' ≤ c ∧ c ≤ '9' then some (c.toNat - '0'.toNat + 52)
  else if c = '+' then some 62
  else if c = '/' then some 63
  else none

/-- The bytes behind an unfinished group of characters. `group` holds the bits of the group, `read`
the number of its characters, and `filled` that of the equals signs since its last one. -/
def base64From (group read filled : Nat) : List Char → Option (List UInt8)
  | [] => if read = 0 then some [] else none
  | c :: rest =>
    if c = '=' then
      if 2 ≤ read ∧ 4 ≤ read + filled + 1 then some []
      else base64From group read (if 2 ≤ read then filled + 1 else filled) rest
    else match sixBits? c with
      | none => base64From group read filled rest
      | some bits =>
        let all := 64 * group + bits
        match read with
        | 0 => base64From bits 1 0 rest
        | 1 => (base64From (all % 16) 2 0 rest).map (UInt8.ofNat (all / 16) :: ·)
        | 2 => (base64From (all % 4) 3 0 rest).map (UInt8.ofNat (all / 4) :: ·)
        | _ => (base64From 0 0 0 rest).map (UInt8.ofNat all :: ·)

/-- The bytes that characters write; none if the last group lacks characters. -/
def base64? (cs : List Char) : Option (List UInt8) := base64From 0 0 0 cs

end TaggedSuite.Text
