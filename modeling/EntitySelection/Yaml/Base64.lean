/-!
# Base64

Four characters stand for three bytes. Characters outside the alphabet are skipped; the text
ends at the padding that completes a group, or with its last character.
-/

namespace EntitySelection.Yaml.Base64

/-- The value of a character of the alphabet. -/
def digit? (c : Char) : Option Nat :=
  if 'A' ≤ c ∧ c ≤ 'Z' then some (c.toNat - 'A'.toNat)
  else if 'a' ≤ c ∧ c ≤ 'z' then some (c.toNat - 'a'.toNat + 26)
  else if '0' ≤ c ∧ c ≤ '9' then some (c.toNat - '0'.toNat + 52)
  else if c = '+' then some 62
  else if c = '/' then some 63
  else none

/-- A group of which `seen` characters have been read: the bits that make no byte yet, and the
padding characters since the last of them. -/
structure Group where
  seen : Nat := 0
  bits : Nat := 0
  padding : Nat := 0

/-- The bytes of a text, if its last group is complete. -/
def decodeFrom (g : Group) : List Char → Option (List UInt8)
  | [] => if g.seen = 0 then some [] else none
  | c :: cs =>
    if c = '=' then
      if 2 ≤ g.seen then
        if 4 ≤ g.seen + g.padding + 1 then some []
        else decodeFrom { g with padding := g.padding + 1 } cs
      else decodeFrom g cs
    else match digit? c with
      | none => decodeFrom g cs
      | some d =>
        let n := g.bits * 64 + d
        match g.seen with
        | 0 => decodeFrom ⟨1, d, 0⟩ cs
        | 1 => (decodeFrom ⟨2, n % 16, 0⟩ cs).map (UInt8.ofNat (n / 16) :: ·)
        | 2 => (decodeFrom ⟨3, n % 4, 0⟩ cs).map (UInt8.ofNat (n / 4) :: ·)
        | _ => (decodeFrom ⟨0, 0, 0⟩ cs).map (UInt8.ofNat n :: ·)

def decode (cs : List Char) : Option (List UInt8) := decodeFrom {} cs

end EntitySelection.Yaml.Base64
