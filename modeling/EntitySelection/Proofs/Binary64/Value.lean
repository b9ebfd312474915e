import EntitySelection.Numeral
import EntitySelection.Proofs.Binary64.Decimal
import Mathlib.Algebra.Order.Ring.Abs
import Mathlib.Data.Rat.Cast.Order
import Mathlib.Tactic.FieldSimp

/-!
# Correct rounding

What it is to be rounded correctly, said of rational numbers and apart from how it is done
(`Nearest`): no magnitude is nearer, and if another one is as near, then the index is even. This
determines the magnitude (`Nearest.unique`). Infinity takes part with the value `2 ^ 1024`, that
of the number that would come next, so that a number is infinite when it is rounded up to there.

**Theorem (`nearest_iff`).** The magnitude of a decimal is the one that is nearest to its value
`c · 10 ^ e`. The reading intervals of whole numbers of units say so already (`Reads`); here they
are carried over to the values.

**Numerals (`rounded_iff`).** A numeral is rounded to the number with its sign and the nearest
magnitude.
-/

namespace EntitySelection

namespace Magnitude

/-! ## Values -/

/-- The value at an index. -/
def valueAt (n : Nat) : ℚ := unitsAt n / unitsPerOne

/-- The value of a magnitude. That of infinity is `2 ^ 1024`. -/
def value (m : Magnitude) : ℚ := valueAt m.index

/-- No magnitude is nearer to `x`, and where another one is as near, the index is even. -/
structure Nearest (x : ℚ) (m : Magnitude) : Prop where
  le : ∀ n : Magnitude, |x - m.value| ≤ |x - n.value|
  even : ∀ n : Magnitude, n ≠ m → |x - m.value| = |x - n.value| → m.index % 2 = 0

theorem unitsPerOne_cast_pos : (0 : ℚ) < unitsPerOne := Nat.cast_pos.2 unitsPerOne_pos

theorem valueAt_strictMono : StrictMono valueAt := by
  intro i j hij
  have hunits : (unitsAt i : ℚ) < unitsAt j := Nat.cast_lt.2 (unitsAt_strictMono hij)
  exact div_lt_div_of_pos_right hunits unitsPerOne_cast_pos

section Distance

variable {a b x : ℚ}

theorem abs_sub_le_of_add_le (hab : a ≤ b) (h : a + b ≤ 2 * x) : |x - b| ≤ |x - a| := by
  have ha : |x - a| = x - a := abs_of_nonneg (by linarith)
  rw [ha, abs_le]
  constructor <;> linarith

theorem abs_sub_le_of_le_add (hab : a ≤ b) (h : 2 * x ≤ a + b) : |x - a| ≤ |x - b| := by
  have hb : |x - b| = -(x - b) := abs_of_nonpos (by linarith)
  rw [hb, abs_le]
  constructor <;> linarith

/-- Where two values are as near, `x` is half way between them. -/
theorem add_eq_of_abs_sub_eq (hab : a ≠ b) (h : |x - a| = |x - b|) : a + b = 2 * x := by
  rcases abs_eq_abs.1 h with heq | heq
  · exact absurd (sub_right_injective heq) hab
  · linarith

end Distance

/-! ## Uniqueness -/

variable {x : ℚ} {m n : Magnitude} {p q : Nat}

theorem value_ne (h : n ≠ m) : n.value ≠ m.value := fun heq =>
  h (eq_of_index (valueAt_strictMono.injective heq))

/-- Two nearest magnitudes would both be even, and a magnitude between them would be nearer. -/
theorem Nearest.index_le (hm : Nearest x m) (hn : Nearest x n) : n.index ≤ m.index := by
  by_contra hlt
  have hne : m ≠ n := by
    rintro rfl
    exact hlt le_rfl
  have heq : |x - m.value| = |x - n.value| := le_antisymm (hm.le n) (hn.le m)
  have hmeven := hm.even n hne.symm heq
  have hneven := hn.even m hne heq.symm
  have hhalf := add_eq_of_abs_sub_eq (value_ne hne) heq
  have hle := n.index_le
  let k : Magnitude := ⟨m.index + 1, by omega⟩
  have hmk : m.value < k.value := valueAt_strictMono (Nat.lt_succ_self m.index)
  have hkn : k.value < n.value := valueAt_strictMono (show m.index + 1 < n.index by omega)
  have hnearer : |x - k.value| < |x - m.value| := by
    have habs : |x - m.value| = x - m.value := abs_of_nonneg (by linarith)
    rw [habs, abs_lt]
    constructor <;> linarith
  exact absurd (hm.le k) (not_le.2 hnearer)

theorem Nearest.unique (hm : Nearest x m) (hn : Nearest x n) : m = n :=
  eq_of_index (le_antisymm (hn.index_le hm) (hm.index_le hn))

/-! ## Rounding -/

theorem valueAt_add_le_iff (hq : 0 < q) (i j : Nat) :
    valueAt i + valueAt j ≤ 2 * (p / q) ↔
      (unitsAt i + unitsAt j) * q ≤ 2 * (p * unitsPerOne) := by
  have hq' : (0 : ℚ) < q := Nat.cast_pos.2 hq
  have hone := unitsPerOne_cast_pos
  rw [valueAt, valueAt, ← add_div, ← mul_div_assoc, div_le_div_iff₀ hone hq', mul_assoc]
  norm_cast

theorem le_valueAt_add_iff (hq : 0 < q) (i j : Nat) :
    2 * (p / q) ≤ valueAt i + valueAt j ↔
      2 * (p * unitsPerOne) ≤ (unitsAt i + unitsAt j) * q := by
  have hq' : (0 : ℚ) < q := Nat.cast_pos.2 hq
  have hone := unitsPerOne_cast_pos
  rw [valueAt, valueAt, ← add_div, ← mul_div_assoc, div_le_div_iff₀ hq' hone, mul_assoc]
  norm_cast

/-- A magnitude is nearest when `x` is nowhere beyond the half way to another one, and not there
either if the index is odd. -/
theorem nearest_of_half_way (lower : ∀ i < m.index, valueAt i + m.value ≤ 2 * x)
    (upper : ∀ i, m.index < i → i ≤ 2047 <<< 52 → 2 * x ≤ m.value + valueAt i)
    (odd : m.index % 2 = 1 → ∀ i, i ≠ m.index → valueAt i + m.value ≠ 2 * x) : Nearest x m := by
  constructor
  case le =>
    intro n
    rcases lt_trichotomy n.index m.index with hlt | heq | hgt
    · exact abs_sub_le_of_add_le (valueAt_strictMono hlt).le (lower n.index hlt)
    · rw [eq_of_index heq]
    · exact abs_sub_le_of_le_add (valueAt_strictMono hgt).le (upper n.index hgt n.index_le)
  case even =>
    intro n hne heq
    have hhalf := add_eq_of_abs_sub_eq (value_ne hne.symm) heq
    by_contra heven
    have hindex : n.index ≠ m.index := fun hindex => hne (eq_of_index hindex)
    refine odd (by omega) n.index hindex ?_
    rw [add_comm]
    exact hhalf

/-- The magnitude in whose reading interval a quotient is. -/
theorem Reads.nearest (hq : 0 < q) (h : Reads m.index (p * unitsPerOne) q) :
    Nearest (p / q) m := by
  have hbelow : ∀ i < m.index, valueAt i ≤ valueAt (m.index - 1) := fun i hi =>
    valueAt_strictMono.monotone (by omega)
  have habove : ∀ i, m.index < i → valueAt (m.index + 1) ≤ valueAt i := fun i hi =>
    valueAt_strictMono.monotone hi
  have hlower := (valueAt_add_le_iff hq (m.index - 1) m.index).2 h.lower
  have hupper := (le_valueAt_add_iff hq m.index (m.index + 1)).2 h.upper
  rw [← value] at hlower hupper
  refine nearest_of_half_way (fun i hi => ?_) (fun i hi _ => ?_) fun hodd i hi heq => ?_
  · have hi := hbelow i hi
    linarith
  · have hi := habove i hi
    linarith
  · have hlower := not_le.2 (h.lower_odd hodd)
    have hupper := not_le.2 (h.upper_odd hodd)
    rw [← le_valueAt_add_iff hq, not_le, ← value] at hlower
    rw [← valueAt_add_le_iff hq, not_le, ← value] at hupper
    rcases Nat.lt_or_gt_of_ne hi with hlt | hgt
    · have hlt := hbelow i hlt
      linarith
    · have hgt := habove i hgt
      linarith

/-- A quotient in the reading interval of an index beyond that of infinity. -/
theorem Reads.nearest_infinity {r : Nat} (hq : 0 < q) (hr : 2047 <<< 52 < r)
    (h : Reads r (p * unitsPerOne) q) : Nearest (p / q) infinity := by
  have hlower := (valueAt_add_le_iff hq (r - 1) r).2 h.lower
  refine nearest_of_half_way (fun i hi => ?_) (fun i hi hle => ?_) fun hodd => ?_
  · have hlast : i ≤ r - 1 := Nat.le_sub_one_of_lt (Nat.lt_trans hi hr)
    have hi := valueAt_strictMono.monotone hlast
    have hinfinity : infinity.value ≤ valueAt r := valueAt_strictMono.monotone hr.le
    linarith
  · exact absurd hle (not_le.2 hi)
  · exact absurd hodd (by decide)

theorem nearest_ofQuotient (p : Nat) (hq : 0 < q) : Nearest (p / q) (ofQuotient p q) := by
  have hreads := reads_roundIndex (p := p * unitsPerOne) hq
  have hindex : (ofQuotient p q).index = min (roundIndex (p * unitsPerOne) q) (2047 <<< 52) := rfl
  rcases le_or_gt (roundIndex (p * unitsPerOne) q) (2047 <<< 52) with hle | hgt
  · rw [min_eq_left hle] at hindex
    rw [← hindex] at hreads
    exact hreads.nearest hq
  · rw [min_eq_right hgt.le] at hindex
    have hinfinity : ofQuotient p q = infinity := eq_of_index hindex
    rw [hinfinity]
    exact hreads.nearest_infinity hq hgt

/-- **The magnitude of a decimal is nearest to its value.** -/
theorem nearest_iff {c : Nat} {e : Int} : Nearest (c * 10 ^ e) m ↔ ofDecimal c e = m := by
  have hvalue : (c * 10 ^ e : ℚ) = (c * 10 ^ e.toNat : Nat) / (10 ^ (-e).toNat : Nat) := by
    rcases le_total 0 e with hnonneg | hneg
    · obtain ⟨k, rfl⟩ := Int.eq_ofNat_of_zero_le hnonneg
      simp
    · obtain ⟨k, hk⟩ := Int.eq_ofNat_of_zero_le (Int.neg_nonneg_of_nonpos hneg)
      obtain rfl : e = -k := by omega
      simp [div_eq_mul_inv]
  have hnearest : Nearest (c * 10 ^ e) (ofDecimal c e) := by
    rw [hvalue, ofDecimal_eq_ofQuotient]
    exact nearest_ofQuotient _ (Nat.pow_pos (by decide))
  constructor
  · exact hnearest.unique
  · rintro rfl
    exact hnearest

end Magnitude

namespace Numeral

/-- What it is for a number to be a numeral rounded correctly. -/
inductive Rounded : Numeral → Binary64 → Prop
  | decimal {negative : Bool} {c : Nat} {e : Int} {m : Magnitude}
      (hm : Magnitude.Nearest (c * 10 ^ e) m) :
      Rounded (.decimal negative c e) (.signed negative m)
  | infinite {negative : Bool} : Rounded (.infinite negative) (.signed negative .infinity)
  | nan : Rounded .nan .nan

/-- **The number of a numeral is the numeral rounded correctly.** -/
theorem rounded_iff {n : Numeral} {x : Binary64} : n.Rounded x ↔ n.toBinary64 = x := by
  constructor
  · intro h
    cases h with
    | decimal hm => rw [toBinary64, Magnitude.nearest_iff.1 hm]
    | infinite => rfl
    | nan => rfl
  · rintro rfl
    cases n with
    | decimal negative c e => exact .decimal (Magnitude.nearest_iff.2 rfl)
    | infinite negative => exact .infinite
    | nan => exact .nan

end Numeral

end EntitySelection
