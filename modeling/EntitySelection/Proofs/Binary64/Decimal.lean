import EntitySelection.Proofs.Binary64.Nearest

/-!
# Decimals as quotients

Far beyond the range of the format `ofDecimal` does not compute the power of ten. It gives the
rounded quotient all the same (`ofDecimal_eq_ofQuotient`), since a decimal with so large an
exponent is infinite and one with so small an exponent is zero. It follows that zeros can be
moved between coefficient and exponent (`ofDecimal_shift`).
-/

namespace EntitySelection.Magnitude

variable {p q p' q' : Nat}

/-- `2 ^ 49` is below `10 ^ 15`. -/
theorem two_pow_le_ten_pow {i j : Nat} (k : Nat) (hi : i ≤ 49 * k) (hj : 15 * k ≤ j) :
    2 ^ i ≤ 10 ^ j := by
  calc 2 ^ i ≤ 2 ^ (49 * k) := Nat.pow_le_pow_right (by decide) hi
    _ = (2 ^ 49) ^ k := pow_mul 2 49 k
    _ ≤ (10 ^ 15) ^ k := Nat.pow_le_pow_left (by decide) k
    _ = 10 ^ (15 * k) := (pow_mul 10 15 k).symm
    _ ≤ 10 ^ j := Nat.pow_le_pow_right (by decide) hj

theorem unitsPerOne_pos : 0 < unitsPerOne := by
  simp only [unitsPerOne, Nat.one_shiftLeft, Nat.two_pow_pos]

theorem two_pow_mul_unitsPerOne (i : Nat) : 2 ^ i * unitsPerOne = 2 ^ (i + 1074) := by
  rw [unitsPerOne, Nat.one_shiftLeft, Nat.pow_add]

/-- Infinity has the value `2 ^ 1024`. -/
theorem unitsAt_infinity : unitsAt (2047 <<< 52) = 2 ^ 1024 * unitsPerOne := by
  have hunits : unitsAt (2046 * 2 ^ 52 + 2 ^ 52) = 2 ^ 52 * 2 ^ 2046 :=
    unitsAt_block (by decide) (.inr (Nat.le_refl _))
  have hindex : 2046 * 2 ^ 52 + 2 ^ 52 = 2047 <<< 52 := by decide
  rw [hindex, ← pow_add] at hunits
  rw [hunits, two_pow_mul_unitsPerOne]

theorem ofQuotient_congr (hq : 0 < q) (hq' : 0 < q') (heq : p * q' = p' * q) :
    ofQuotient p q = ofQuotient p' q' := by
  refine round_congr hq hq' ?_
  rw [Nat.mul_right_comm, heq, Nat.mul_right_comm]

theorem ofQuotient_eq_zero (hq : 0 < q) (h : 2 * (p * unitsPerOne) ≤ q) :
    ofQuotient p q = zero :=
  round_eq_of_reads hq ⟨by simp [zero, unitsAt_zero], by simpa [zero, unitsAt] using h,
    by simp [zero], by simp [zero]⟩

theorem ofQuotient_eq_infinity (hq : 0 < q) (h : 2 ^ 1024 * q ≤ p) :
    ofQuotient p q = infinity := by
  refine eq_of_index (Nat.min_eq_right (le_roundIndex hq ?_))
  rw [unitsAt_infinity, Nat.mul_right_comm]
  exact Nat.mul_le_mul_right _ h

/-- **A decimal is rounded as the quotient that it is.** -/
theorem ofDecimal_eq_ofQuotient (d : Nat) (e : Int) :
    ofDecimal d e = ofQuotient (d * 10 ^ e.toNat) (10 ^ (-e).toNat) := by
  have hq : 0 < 10 ^ (-e).toNat := Nat.pow_pos (by decide)
  unfold ofDecimal
  split
  · next h0 =>
    refine (ofQuotient_eq_zero hq ?_).symm
    simp only [h0, Nat.zero_mul, Nat.mul_zero, Nat.zero_le]
  next h0 =>
  rcases lt_or_ge e 0 with hneg | hnonneg
  · have hone : e.toNat = 0 := by omega
    have habs : (-e).toNat = e.natAbs := by omega
    rw [if_neg (by omega), if_neg (by omega), hone, pow_zero, Nat.mul_one, habs]
    split
    · next hsmall =>
      refine (ofQuotient_eq_zero (habs ▸ hq) ?_).symm
      have hd : d < 2 ^ (Nat.log2 d + 1) := Nat.lt_log2_self
      calc 2 * (d * unitsPerOne) ≤ 2 * (2 ^ (Nat.log2 d + 1) * unitsPerOne) :=
            Nat.mul_le_mul_left 2 (Nat.mul_le_mul_right _ hd.le)
        _ = 2 ^ (Nat.log2 d + 1076) := by rw [two_pow_mul_unitsPerOne, ← pow_succ']
        _ ≤ 10 ^ e.natAbs :=
            two_pow_le_ten_pow ((Nat.log2 d + 401) / 15) (by omega) (by omega)
    · rfl
  · have hone : (-e).toNat = 0 := by omega
    rw [hone, pow_zero]
    split
    · next hlarge =>
      refine (ofQuotient_eq_infinity (by decide) ?_).symm
      rw [Nat.mul_one]
      calc 2 ^ 1024 ≤ 10 ^ e.toNat := two_pow_le_ten_pow 21 (by decide) (by omega)
        _ ≤ d * 10 ^ e.toNat := Nat.le_mul_of_pos_left _ (Nat.pos_of_ne_zero h0)
    · rfl

/-- Zeros can be moved from the exponent to the coefficient. -/
theorem ofDecimal_shift (d : Nat) (e : Int) (k : Nat) :
    ofDecimal (d * 10 ^ k) (e - k) = ofDecimal d e := by
  rw [ofDecimal_eq_ofQuotient, ofDecimal_eq_ofQuotient]
  refine ofQuotient_congr (Nat.pow_pos (by decide)) (Nat.pow_pos (by decide)) ?_
  have hexponents : k + (e - k).toNat + (-e).toNat = e.toNat + (-(e - k)).toNat := by omega
  calc d * 10 ^ k * 10 ^ (e - k).toNat * 10 ^ (-e).toNat
      = d * 10 ^ (k + (e - k).toNat + (-e).toNat) := by ring
    _ = d * 10 ^ (e.toNat + (-(e - k)).toNat) := by rw [hexponents]
    _ = d * 10 ^ e.toNat * 10 ^ (-(e - k)).toNat := by ring

end EntitySelection.Magnitude
