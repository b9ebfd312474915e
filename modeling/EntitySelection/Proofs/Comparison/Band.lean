import EntitySelection.Proofs.Comparison.Tolerance

/-!
# The band of equality

The numbers that are equal to an operand are a band around it, and those that are different lie
outside. One expects that a candidate stays equal when it moves towards the operand, and stays
different when it moves away (`Interval`).

**Theorem (`interval_iff`).** For finite numbers this is so while the sum of candidate and operand
is finite. A sum beyond the largest number makes the tolerance infinite. Then the candidate is equal
to the operand however far away it is, and so the two laws fail for every number on the way that is
not equal to the operand.

The candidate and the operand have units `i` and `j`, and their distance and tolerance are `spread i
j` and `allowance i j`, the latter where it is above the floor. A number on the way has `k` units,
and of the three ways to it two are easy (`ways`). Either the sum does not shrink, so that the
tolerance does not shrink either. Or the candidate is on the other side of zero; then its distance
is more than its sum, and only the floor counts.

**The third way** is the one towards zero. Both distance and tolerance shrink, but the tolerance by
no more than a ten-thousandth of what the distance loses. Roundings come on top of that. They are
small against the sum, but the numbers may be next to each other, and then the sum is nearly
`2 ^ 54` times what the distance loses. Of that a ten-thousandth and the `2 ^ 53`rd part remain,
which is still less than the distance loses (`spread_lt_allowance`).
-/

namespace EntitySelection.Comparison

open Binary64 Magnitude

variable {a c d : Binary64} {i j k : Int} {m : Magnitude}

/-! ## Finite numbers -/

/-- The distance of numbers of `i` and `j` units. -/
def spread (i j : Int) : Magnitude := .round (i - j).natAbs 1

/-- The tolerance that numbers of `i` and `j` units ask for. -/
def allowance (i j : Int) : Magnitude := portion (.round (i + j).natAbs 1)

section Units

variable (hc : c.units? = some i) (ha : a.units? = some j)
include hc ha

theorem distance_eq : distance c a = .signed false (spread i j) := by
  have hneg : a.neg.units? = some (-j) := by rw [units?_neg, ha, Option.map_some]
  rw [distance, sub, abs_add_of_units hc hneg, spread, Int.sub_eq_add_neg]

theorem tolerance_eq : tolerance c a =
    .signed false (if floor.index < (allowance i j).index then allowance i j else floor) := by
  rw [tolerance, toleranceFloor_eq, abs_add_of_units hc ha, div_toleranceScale, maximum_signed,
    allowance]

theorem equal_eq : equal c a =
    decide ((spread i j).index < max floor.index (allowance i j).index) := by
  rw [equal, distance_eq hc ha, tolerance_eq hc ha, lt_eq rfl rfl, decide_eq_decide]
  simp only [applySign, Bool.false_eq_true, if_false, Int.ofNat_lt]
  split <;> omega

theorem notEqual_eq : notEqual c a =
    decide (max floor.index (allowance i j).index < (spread i j).index) := by
  rw [notEqual, distance_eq hc ha, tolerance_eq hc ha, lt_eq rfl rfl, decide_eq_decide]
  simp only [applySign, Bool.false_eq_true, if_false, Int.ofNat_lt]
  split <;> omega

theorem isFinite_add : (c.add a).isFinite = !(round (i + j).natAbs 1).isInfinite := by
  rw [← isFinite_abs, abs_add_of_units hc ha]
  rfl

end Units

/-! ## Parts of a sum -/

theorem portion_le (m : Magnitude) : (portion m).index ≤ m.index := by
  unfold portion
  split
  · exact le_rfl
  · have hscaled : round m.units 1 = round (m.units * 10000) 10000 :=
      round_congr (by decide) (by decide) (by ring)
    have hmono : (round m.units 10000).index ≤ (round (m.units * 10000) 10000).index :=
      round_mono (by decide) (by omega)
    rwa [← hscaled, round_units] at hmono

theorem portion_mono {n : Magnitude} (h : m.index ≤ n.index) :
    (portion m).index ≤ (portion n).index := by
  cases hn : n.isInfinite
  case true =>
    have htop : portion n = n := by rw [portion, hn, if_pos rfl]
    rw [htop]
    exact (portion_le m).trans h
  case false =>
    have hm := isInfinite_of_le h hn
    rw [portion, portion, hm, hn]
    exact round_mono (by decide) (units_le_iff.2 h)

theorem portion_of_finite (hm : m.isInfinite = false) : portion m = round m.units 10000 := by
  rw [portion, hm]
  exact if_neg Bool.false_ne_true

section Error

variable (hm : m.isInfinite = false)
include hm

theorem le_portion : 2 ^ 53 * m.units ≤ ((2 ^ 53 + 1) * (portion m).units + 2 ^ 52) * 10000 := by
  have hfinite := isInfinite_of_le (portion_le m) hm
  rw [portion_of_finite hm] at hfinite ⊢
  exact le_of_round (by decide) hfinite

theorem portion_error :
    (2 ^ 53 + 1) * (portion m).units * 10000 ≤ (2 ^ 53 + 2) * m.units + 2 ^ 52 * 10000 := by
  have hfinite := isInfinite_of_le (portion_le m) hm
  rw [portion_of_finite hm] at hfinite ⊢
  exact round_le (by decide) hfinite

/-- A part of a sum is less than the sum. -/
theorem portion_lt (hpos : 0 < m.index) : (portion m).index < m.index := by
  refine lt_of_le_of_ne (portion_le m) fun heq => ?_
  have herror := portion_error hm
  have hunits : m.units ≠ 0 := fun h => hpos.ne' (units_eq_zero_iff.1 h)
  rw [eq_of_index heq] at herror
  omega

end Error

/-! ## Towards zero -/

theorem floor_large : 2 ^ 100 ≤ floor.units := by decide +kernel

/-- When a candidate of `y` units, not beyond the tolerance of an operand of `x` units, moves to
`z` units, it is well within the tolerance. -/
theorem spread_lt_allowance {x y z u v : Nat} (hu : x + u = y) (hv : x + v = z) (hzy : z < y)
    (hgap : (2 ^ 53 + 1) * z ≤ 2 ^ 53 * y) (hsum : (round (y + x) 1).isInfinite = false)
    (hfloor : floor.index ≤ (round u 1).index)
    (hle : (round u 1).index ≤ (portion (round (y + x) 1)).index) :
    (round v 1).index < (portion (round (z + x) 1)).index := by
  have hfinite : ∀ {p}, p ≤ y + x → (round p 1).isInfinite = false := fun hp =>
    isInfinite_of_le (round_mono (by decide) hp) hsum
  have hsum' : (round (z + x) 1).isInfinite = false := hfinite (by omega)
  have hlarge := floor_large.trans (units_le_iff.2 hfloor)
  rw [← units_le_iff] at hle
  rw [← units_lt_iff]
  obtain ⟨loss, rfl⟩ := Nat.exists_eq_add_of_le hzy.le
  have hloss : z ≤ 2 ^ 53 * loss := by omega
  have hsize := round_le (q := 1) (by decide) hsum
  have hsize' := le_of_round (q := 1) (by decide) hsum'
  have hdistance := le_of_round (q := 1) (by decide) (hfinite (show u ≤ z + loss + x by omega))
  have hdistance' := round_le (q := 1) (by decide) (hfinite (show v ≤ z + loss + x by omega))
  have htolerance := portion_error hsum
  have htolerance' := le_portion hsum'
  -- The numbers are close to each other, or the first distance would be beyond the tolerance.
  have hclose : z + loss + x ≤ 3 * z := by omega
  have hfall : 4 * (round v 1).units + 3 * loss ≤ 4 * (round u 1).units := by omega
  have hshrink : 4 * (portion (round (z + loss + x) 1)).units ≤
      4 * (portion (round (z + x) 1)).units + loss := by omega
  omega

/-! ## Three ways -/

/-- A number on the way has no larger distance. Its sum is no smaller, or the candidate is on the
other side of zero, or the way is towards zero. -/
theorem ways (h : j ≤ k ∧ k ≤ i ∨ i ≤ k ∧ k ≤ j) : (k - j).natAbs ≤ (i - j).natAbs ∧
    ((i + j).natAbs ≤ (k + j).natAbs ∨ (i + j).natAbs ≤ (i - j).natAbs ∨
      j.natAbs + (i - j).natAbs = i.natAbs ∧ j.natAbs + (k - j).natAbs = k.natAbs ∧
        (i + j).natAbs = i.natAbs + j.natAbs ∧ (k + j).natAbs = k.natAbs + j.natAbs ∧
        k.natAbs < i.natAbs) := by
  omega

/-- At `k` units a candidate is within the tolerance if it is at `i` units, and it is beyond the
tolerance at `i` units if it is at `k` units. -/
structure Narrows (i k j : Int) : Prop where
  within : (spread i j).index < max floor.index (allowance i j).index →
    (spread k j).index < max floor.index (allowance k j).index
  beyond : max floor.index (allowance k j).index < (spread k j).index →
    max floor.index (allowance i j).index < (spread i j).index

theorem narrows_of_allowance_le (hspread : (spread k j).index ≤ (spread i j).index)
    (hallowance : (allowance i j).index ≤ (allowance k j).index) : Narrows i k j where
  within _ := by omega
  beyond _ := by omega

/-- Where the sum is no larger than the distance, only the floor counts. -/
theorem narrows_of_add_le (hspread : (spread k j).index ≤ (spread i j).index)
    (hsum : (round (i + j).natAbs 1).isInfinite = false)
    (hle : (i + j).natAbs ≤ (i - j).natAbs) : Narrows i k j := by
  have hsize : (round (i + j).natAbs 1).index ≤ (spread i j).index := round_mono (by decide) hle
  have hfloor := floor_pos
  have hsmall : (allowance i j).index = 0 ∨ (allowance i j).index < (spread i j).index := by
    rcases Nat.eq_zero_or_pos (round (i + j).natAbs 1).index with hzero | hpos
    · exact .inl (Nat.le_zero.1 (hzero ▸ portion_le _))
    · exact .inr ((portion_lt hsum hpos).trans_le hsize)
  constructor
  case within =>
    intro h
    omega
  case beyond =>
    intro h
    omega

/-- Towards zero a candidate that is not beyond the tolerance gets well within it. -/
theorem narrows_of_close (hspread : (spread k j).index ≤ (spread i j).index)
    (hclose : floor.index ≤ (spread i j).index →
      (spread i j).index ≤ (allowance i j).index →
      (spread k j).index < (allowance k j).index) : Narrows i k j where
  within _ := by omega
  beyond _ := by omega

theorem narrows (h : j ≤ k ∧ k ≤ i ∨ i ≤ k ∧ k ≤ j)
    (hgap : k.natAbs < i.natAbs → (2 ^ 53 + 1) * k.natAbs ≤ 2 ^ 53 * i.natAbs)
    (hsum : (round (i + j).natAbs 1).isInfinite = false) : Narrows i k j := by
  obtain ⟨hdistance, hways⟩ := ways h
  have hspread : (spread k j).index ≤ (spread i j).index := round_mono (by decide) hdistance
  rcases hways with hgrows | hopposite | ⟨hi, hk, hadd, hadd', hless⟩
  · exact narrows_of_allowance_le hspread (portion_mono (round_mono (by decide) hgrows))
  · exact narrows_of_add_le hspread hsum hopposite
  · refine narrows_of_close hspread fun hfloor hle => ?_
    rw [allowance, hadd] at hle
    rw [allowance, hadd']
    exact spread_lt_allowance hi hk hless (hgap hless) (hadd ▸ hsum) hfloor hle

/-! ## Sums beyond the largest number -/

/-- Numbers whose sum is beyond the largest number are on one side of zero, and have a finite
distance. -/
theorem spread_of_overflow {n : Magnitude} (hm : m.isInfinite = false) (hi : m.units = i.natAbs)
    (hn : n.isInfinite = false) (hj : n.units = j.natAbs)
    (hsum : (round (i + j).natAbs 1).isInfinite = true) : (spread i j).isInfinite = false := by
  have hlarge : ∀ k : Magnitude, k.isInfinite = false → k.units < (i + j).natAbs := by
    intro k hk
    by_contra hle
    have hfinite := isInfinite_of_le (round_index_le (not_lt.1 hle)) hk
    rw [hsum] at hfinite
    cases hfinite
  have hbeyond := hlarge m hm
  have hbeyond' := hlarge n hn
  have hspread : (i - j).natAbs ≤ m.units ∨ (i - j).natAbs ≤ n.units := by omega
  rcases hspread with hle | hle
  · exact isInfinite_of_le (round_index_le hle) hm
  · exact isInfinite_of_le (round_index_le hle) hn

/-! ## The band -/

/-- A number is on the way from an operand to a candidate. -/
def Between (a d c : Binary64) : Prop :=
  a.le d = true ∧ d.le c = true ∨ c.le d = true ∧ d.le a = true

/-- A candidate `c` that moves to `d` stays equal to an operand, and one that moves back stays
different. -/
structure Interval (c d a : Binary64) : Prop where
  equal : equal c a = true → equal d a = true
  notEqual : notEqual d a = true → notEqual c a = true

section Units

variable (hc : c.units? = some i) (hd : d.units? = some k) (ha : a.units? = some j)
include hc hd ha

theorem between_iff : Between a d c ↔ j ≤ k ∧ k ≤ i ∨ i ≤ k ∧ k ≤ j := by
  rw [Between, le_eq_of_units ha hd, le_eq_of_units hd hc, le_eq_of_units hc hd,
    le_eq_of_units hd ha]
  simp only [decide_eq_true_eq]

theorem interval_of_narrows (h : Narrows i k j) : Interval c d a := by
  constructor
  case equal =>
    rw [equal_eq hc ha, equal_eq hd ha, decide_eq_true_eq, decide_eq_true_eq]
    exact h.within
  case notEqual =>
    rw [notEqual_eq hc ha, notEqual_eq hd ha, decide_eq_true_eq, decide_eq_true_eq]
    exact h.beyond

theorem interval_of_between (hbetween : Between a d c) (hsum : (c.add a).isFinite = true) :
    Interval c d a := by
  obtain ⟨m, -, hm⟩ := exists_magnitude hc
  obtain ⟨n, -, hn⟩ := exists_magnitude hd
  rw [isFinite_add hc ha, Bool.not_eq_true'] at hsum
  refine interval_of_narrows hc hd ha (narrows ((between_iff hc hd ha).1 hbetween) ?_ hsum)
  rw [← hm, ← hn]
  exact units_gap

end Units

/-- Where the sum is beyond the largest number, all is equal. -/
theorem equal_of_overflow (hc : c.isFinite = true) (ha : a.isFinite = true)
    (hsum : (c.add a).isFinite = false) : equal c a = true := by
  obtain ⟨i, hi⟩ := exists_units hc
  obtain ⟨j, hj⟩ := exists_units ha
  obtain ⟨m, hm, hmi⟩ := exists_magnitude hi
  obtain ⟨n, hn, hnj⟩ := exists_magnitude hj
  rw [isFinite_add hi hj, Bool.not_eq_false'] at hsum
  have hspread := spread_of_overflow hm hmi hn hnj hsum
  rw [isInfinite_eq_false_iff] at hspread
  have hallowance : (allowance i j).index = 2047 <<< 52 := by
    rw [allowance, portion, hsum, if_pos rfl, isInfinite_iff.1 hsum]
    rfl
  rw [equal_eq hi hj, decide_eq_true_eq, hallowance]
  omega

/-- **The band of equality is an interval while sums are finite**, and only while they are, unless
all is equal. -/
theorem interval_iff (hc : c.isFinite = true) (hd : d.isFinite = true) (ha : a.isFinite = true)
    (hbetween : Between a d c) :
    (Interval c d a ↔ (c.add a).isFinite = true ∨ equal d a = true) ∧
      ((c.add a).isFinite = false → equal c a = true ∧ notEqual c a = false) := by
  have hoverflow : (c.add a).isFinite = false → equal c a = true ∧ notEqual c a = false := by
    intro hsum
    have hequal := equal_of_overflow hc ha hsum
    exact ⟨hequal, not_lt_of_lt hequal⟩
  refine ⟨⟨fun h => ?_, ?_⟩, hoverflow⟩
  · cases hsum : (c.add a).isFinite
    case true => exact .inl rfl
    case false => exact .inr (h.equal (hoverflow hsum).1)
  · rintro (hsum | hequal)
    · obtain ⟨i, hi⟩ := exists_units hc
      obtain ⟨k, hk⟩ := exists_units hd
      obtain ⟨j, hj⟩ := exists_units ha
      exact interval_of_between hi hk hj hbetween hsum
    · have hnot : notEqual d a = false := not_lt_of_lt hequal
      exact ⟨fun _ => hequal, fun h => absurd h (by simp [hnot])⟩

/-- A positive decimal as a number. -/
def decimal (coefficient : Nat) (exponent : Int) : Binary64 :=
  .signed false (.ofDecimal coefficient exponent)

/-- From `1.0001` to `1`, by way of `1.00005`. -/
theorem interval_one : (decimal 10001 (-4)).isFinite = true ∧
    (decimal 100005 (-5)).isFinite = true ∧ (decimal 1 0).isFinite = true ∧
    Between (decimal 1 0) (decimal 100005 (-5)) (decimal 10001 (-4)) ∧
    equal (decimal 10001 (-4)) (decimal 1 0) = true ∧
    equal (decimal 100005 (-5)) (decimal 1 0) = true := by
  have hc : (decimal 10001 (-4)).isFinite = true := by decide +kernel
  have hd : (decimal 100005 (-5)).isFinite = true := by decide +kernel
  have ha : (decimal 1 0).isFinite = true := by decide +kernel
  have hbetween : Between (decimal 1 0) (decimal 100005 (-5)) (decimal 10001 (-4)) :=
    .inl ⟨by decide +kernel, by decide +kernel⟩
  have hequal : equal (decimal 10001 (-4)) (decimal 1 0) = true := by decide +kernel
  have hsum : ((decimal 10001 (-4)).add (decimal 1 0)).isFinite = true := by decide +kernel
  exact ⟨hc, hd, ha, hbetween, hequal,
    ((interval_iff hc hd ha hbetween).1.2 (.inl hsum)).equal hequal⟩

/-- `1.7e308` is equal to `8e307`, and `9e307` is different from it. -/
theorem not_interval_overflow : Between (decimal 8 307) (decimal 9 307) (decimal 17 307) ∧
    (decimal 17 307).isFinite = true ∧
    equal (decimal 17 307) (decimal 8 307) = true ∧
    notEqual (decimal 17 307) (decimal 8 307) = false ∧
    equal (decimal 9 307) (decimal 8 307) = false ∧
    notEqual (decimal 9 307) (decimal 8 307) = true ∧
    ¬ Interval (decimal 17 307) (decimal 9 307) (decimal 8 307) := by
  have hbetween : Between (decimal 8 307) (decimal 9 307) (decimal 17 307) :=
    .inl ⟨by decide +kernel, by decide +kernel⟩
  have hfar : equal (decimal 17 307) (decimal 8 307) = true := by decide +kernel
  have hnear : equal (decimal 9 307) (decimal 8 307) = false := by decide +kernel
  refine ⟨hbetween, by decide +kernel, hfar, by decide +kernel, hnear, by decide +kernel,
    fun h => ?_⟩
  have hequal := h.equal hfar
  rw [hnear] at hequal
  cases hequal

end EntitySelection.Comparison
