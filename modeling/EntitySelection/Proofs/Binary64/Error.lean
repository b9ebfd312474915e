import EntitySelection.Proofs.Binary64.Decimal

/-!
# Order and error of rounding

**Order (`round_mono`).** A larger quotient is not rounded to a smaller magnitude, and a magnitude
is rounded to itself (`round_units`). So what is at most a magnitude is not rounded beyond it.

**Error (`le_of_round`, `round_le`).** The distance from one magnitude to the next is one part in
`2 ^ 53` to one part in `2 ^ 52`, but at least a unit (`unitsAt_le_succ`, `unitsAt_succ_le`). A
quotient that is not rounded to infinity is at most half of that away from what it is rounded to.
Both bounds are given in whole numbers, and for all magnitudes alike, the least ones included.
-/

namespace EntitySelection.Magnitude

variable {m n : Magnitude} {p p' q : Nat}

/-! ## Order -/

theorem units_le_iff : m.units ≤ n.units ↔ m.index ≤ n.index := unitsAt_strictMono.le_iff_le

theorem units_lt_iff : m.units < n.units ↔ m.index < n.index := unitsAt_strictMono.lt_iff_lt

theorem units_eq_zero_iff : m.units = 0 ↔ m.index = 0 := by
  have hle : m.units ≤ 0 ↔ m.index ≤ 0 := units_le_iff (n := zero)
  rwa [Nat.le_zero, Nat.le_zero] at hle

theorem roundIndex_mono (hq : 0 < q) (h : p ≤ p') : roundIndex p q ≤ roundIndex p' q := by
  rcases h.eq_or_lt with rfl | hlt
  · exact le_rfl
  -- Reading intervals do not overlap.
  have hp := reads_roundIndex (p := p) hq
  have hp' := reads_roundIndex (p := p') hq
  by_contra hindex
  have hprev : unitsAt (roundIndex p' q) ≤ unitsAt (roundIndex p q - 1) :=
    unitsAt_strictMono.monotone (by omega)
  have hnext : unitsAt (roundIndex p' q + 1) ≤ unitsAt (roundIndex p q) :=
    unitsAt_strictMono.monotone (by omega)
  have hsum := Nat.mul_le_mul_right q (Nat.add_le_add hprev hnext)
  linarith [hp.lower, hp'.upper]

theorem round_mono (hq : 0 < q) (h : p ≤ p') : (round p q).index ≤ (round p' q).index :=
  min_le_min_right _ (roundIndex_mono hq h)

theorem round_units (m : Magnitude) : round m.units 1 = m := by
  have hnext := unitsAt_lt_succ m.index
  have hprev : unitsAt (m.index - 1) ≤ unitsAt m.index :=
    unitsAt_strictMono.monotone (Nat.sub_le _ _)
  refine round_eq_of_reads (by decide) ⟨?_, ?_, fun hodd => ?_, fun _ => ?_⟩
  · show (unitsAt (m.index - 1) + unitsAt m.index) * 1 ≤ 2 * unitsAt m.index
    omega
  · show 2 * unitsAt m.index ≤ (unitsAt m.index + unitsAt (m.index + 1)) * 1
    omega
  · have hprev : unitsAt (m.index - 1) < unitsAt m.index := unitsAt_strictMono (by omega)
    show (unitsAt (m.index - 1) + unitsAt m.index) * 1 < 2 * unitsAt m.index
    omega
  · show 2 * unitsAt m.index < (unitsAt m.index + unitsAt (m.index + 1)) * 1
    omega

/-- What is at most a magnitude is not rounded beyond it. -/
theorem round_index_le (h : p ≤ m.units) : (round p 1).index ≤ m.index := by
  have hmono := round_mono (q := 1) (by decide) h
  rwa [round_units] at hmono

theorem isInfinite_eq_false_iff : m.isInfinite = false ↔ m.index < 2047 <<< 52 := by
  rw [isInfinite, beq_eq_false_iff_ne]
  exact (lt_iff_le_and_ne.trans (and_iff_right m.index_le)).symm

theorem isInfinite_of_le (h : m.index ≤ n.index) (hn : n.isInfinite = false) :
    m.isInfinite = false := by
  rw [isInfinite_eq_false_iff] at hn ⊢
  exact h.trans_lt hn

/-! ## Spacing -/

/-- The next magnitude is more than one part in `2 ^ 53` away. -/
theorem unitsAt_le_succ (n : Nat) : (2 ^ 53 + 1) * unitsAt n ≤ 2 ^ 53 * unitsAt (n + 1) := by
  obtain ⟨x, k, hk, hx, rfl⟩ := exists_block n
  have hnext := unitsAt_succ_ge hk hx
  have hblock := Nat.mul_le_mul_right (2 ^ x) hk
  rw [unitsAt_block hk hx]
  linarith

/-- The next magnitude is at most one part in `2 ^ 52` away, or a unit. -/
theorem unitsAt_succ_le (n : Nat) :
    2 ^ 52 * unitsAt (n + 1) ≤ (2 ^ 52 + 1) * unitsAt n + 2 ^ 52 := by
  obtain ⟨x, k, hk, hx, rfl⟩ := exists_block n
  rw [unitsAt_block hk hx]
  rcases Nat.lt_or_ge k (2 ^ 53) with hlt | hge
  · rw [Nat.add_assoc, unitsAt_block (by omega) (by omega)]
    rcases hx with rfl | hx
    · omega
    · have hblock := Nat.mul_le_mul_right (2 ^ x) hx
      linarith
  · obtain rfl : k = 2 ^ 53 := by omega
    have hnext : x * 2 ^ 52 + 2 ^ 53 + 1 = (x + 1) * 2 ^ 52 + (2 ^ 52 + 1) := by omega
    rw [hnext, unitsAt_block (by omega) (by omega), pow_succ 2 x]
    linarith

theorem units_gap (h : m.units < n.units) : (2 ^ 53 + 1) * m.units ≤ 2 ^ 53 * n.units :=
  (unitsAt_le_succ m.index).trans
    (Nat.mul_le_mul_left _ (unitsAt_strictMono.monotone (units_lt_iff.1 h)))

/-! ## Error -/

theorem reads_round (hq : 0 < q) (h : (round p q).isInfinite = false) :
    Reads (round p q).index p q := by
  have hindex : (round p q).index = min (roundIndex p q) (2047 <<< 52) := rfl
  rw [isInfinite_eq_false_iff, hindex] at h
  rw [hindex, min_eq_left (by omega)]
  exact reads_roundIndex hq

variable (hq : 0 < q) (h : (round p q).isInfinite = false)
include hq h

/-- A quotient is at most half of the distance above what it is rounded to. -/
theorem le_of_round : 2 ^ 53 * p ≤ ((2 ^ 53 + 1) * (round p q).units + 2 ^ 52) * q := by
  have hupper := (reads_round hq h).upper
  have hnext := Nat.mul_le_mul_right q (unitsAt_succ_le (round p q).index)
  rw [units]
  linarith

/-- A quotient is at most half of the distance below what it is rounded to. -/
theorem round_le : (2 ^ 53 + 1) * (round p q).units * q ≤ (2 ^ 53 + 2) * p + 2 ^ 52 * q := by
  have hlower := (reads_round hq h).lower
  rw [units]
  rcases Nat.eq_zero_or_pos (round p q).index with hzero | hpos
  · rw [hzero, unitsAt_zero]
    omega
  · have hprev := Nat.mul_le_mul_right q (unitsAt_succ_le ((round p q).index - 1))
    rw [Nat.sub_add_cancel hpos] at hprev
    linarith

end EntitySelection.Magnitude
