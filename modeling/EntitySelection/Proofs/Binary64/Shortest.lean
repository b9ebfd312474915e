import EntitySelection.Binary64.Shortest
import EntitySelection.Proofs.Binary64.Decimal

/-!
# Shortest decimals read back

**Theorem (`ofDecimal_shortest`).** The shortest decimal of a positive finite magnitude is rounded
to that magnitude.

The search over the grids accepts only decimals in the reading interval (`readsAs_of_onGrid?`), so
what remains is the last grid, where it does not look: there the distance of two decimals is less
than half a unit, and the decimal just below the magnitude is in its interval
(`reads_gridFloor`).
-/

namespace EntitySelection.Magnitude

variable {n d : Nat} {e : Int}

/-! ## The reading interval -/

theorem decimalHalfUnits_eq (d : Nat) (e : Int) :
    decimalHalfUnits d e = (2 * (d * 10 ^ e.toNat * unitsPerOne), 10 ^ (-e).toNat) := by
  unfold decimalHalfUnits
  split
  · have hone : (-e).toNat = 0 := by omega
    rw [hone, pow_zero, Nat.pow_eq]
  · have hone : e.toNat = 0 := by omega
    have habs : (-e).toNat = e.natAbs := by omega
    rw [hone, pow_zero, Nat.mul_one, habs, Nat.pow_eq]

theorem readsAs_iff : readsAs n d e = true ↔
    Reads n (d * 10 ^ e.toNat * unitsPerOne) (10 ^ (-e).toNat) := by
  rw [readsAs, decimalHalfUnits_eq]
  generalize d * 10 ^ e.toNat * unitsPerOne = p
  generalize 10 ^ (-e).toNat = q
  simp only [beq_iff_eq]
  constructor
  · intro h
    split at h
    · simp only [Bool.and_eq_true, decide_eq_true_eq] at h
      exact ⟨h.1, h.2, fun hodd => by omega, fun hodd => by omega⟩
    · simp only [Bool.and_eq_true, decide_eq_true_eq] at h
      exact ⟨h.1.le, h.2.le, fun _ => h.1, fun _ => h.2⟩
  · intro h
    split
    · simp only [Bool.and_eq_true, decide_eq_true_eq]
      exact ⟨h.lower, h.upper⟩
    · simp only [Bool.and_eq_true, decide_eq_true_eq]
      exact ⟨h.lower_odd (by omega), h.upper_odd (by omega)⟩

/-- A decimal that reads as a magnitude is rounded to it. -/
theorem ofDecimal_of_readsAs {m : Magnitude} (h : readsAs m.index d e = true) :
    ofDecimal d e = m := by
  rw [ofDecimal_eq_ofQuotient]
  exact round_eq_of_reads (Nat.pow_pos (by decide)) (readsAs_iff.1 h)

/-! ## The search -/

theorem readsAs_of_onGrid? (h : onGrid? n e = some d) : readsAs n d e = true := by
  simp only [onGrid?] at h
  split at h
  · next hfloor hceil =>
    split at h
    · obtain rfl := Option.some.inj h
      exact hfloor
    · obtain rfl := Option.some.inj h
      exact hceil
    · obtain rfl := Option.some.inj h
      split
      · exact hfloor
      · exact hceil
  · next hfloor _ =>
    obtain rfl := Option.some.inj h
    exact hfloor
  · next _ hceil =>
    obtain rfl := Option.some.inj h
    exact hceil
  · simp at h

/-- On a grid finer than half a unit the decimal just below a magnitude is in its interval. -/
theorem reads_gridFloor {k : Nat} (hn : 0 < n) (hk : 2 * unitsPerOne ≤ 10 ^ k) :
    Reads n (unitsAt n * 10 ^ k / unitsPerOne * unitsPerOne) (10 ^ k) := by
  have hfloor := Nat.div_add_mod' (unitsAt n * 10 ^ k) unitsPerOne
  have hrest := Nat.mod_lt (unitsAt n * 10 ^ k) unitsPerOne_pos
  have hone := unitsPerOne_pos
  generalize unitsAt n * 10 ^ k / unitsPerOne * unitsPerOne = p at *
  generalize unitsAt n * 10 ^ k % unitsPerOne = r at *
  have hprev : unitsAt (n - 1) + 1 ≤ unitsAt n := unitsAt_strictMono (by omega)
  have hnext : unitsAt n + 1 ≤ unitsAt (n + 1) := unitsAt_lt_succ n
  have hlower : (unitsAt (n - 1) + unitsAt n) * 10 ^ k < 2 * p := by
    linarith [Nat.mul_le_mul_right (10 ^ k) hprev]
  have hupper : 2 * p < (unitsAt n + unitsAt (n + 1)) * 10 ^ k := by
    linarith [Nat.mul_le_mul_right (10 ^ k) hnext]
  exact ⟨hlower.le, hupper.le, fun _ => hlower, fun _ => hupper⟩

theorem coarsest_spec {least : Int} (hleast : readsAs n (gridFloor n least) least = true)
    (hpos : gridFloor n least ≠ 0) (count : Nat) :
    readsAs n (coarsest n least count).1 (coarsest n least count).2 = true ∧
      (coarsest n least count).1 ≠ 0 := by
  induction count with
  | zero => exact ⟨hleast, hpos⟩
  | succ count ih =>
    simp only [coarsest]
    split
    · next d hd =>
      split
      · exact ih
      · next hd0 => exact ⟨readsAs_of_onGrid? hd, hd0⟩
    · exact ih

theorem readsAs_gridFloor {k : Nat} (hn : 0 < n) (hk : 2 * unitsPerOne ≤ 10 ^ k) :
    readsAs n (gridFloor n (-k)) (-k) = true ∧ gridFloor n (-k) ≠ 0 := by
  have hpos : k ≠ 0 := by
    rintro rfl
    have hone := unitsPerOne_pos
    rw [pow_zero] at hk
    omega
  have hfloor : gridFloor n (-k) = unitsAt n * 10 ^ k / unitsPerOne := by
    rw [gridFloor, if_neg (by omega), Int.natAbs_neg, Int.natAbs_natCast, Nat.pow_eq]
  have hreads := reads_gridFloor hn hk
  rw [← hfloor] at hreads
  constructor
  · have hzero : (-(k : Int)).toNat = 0 := by omega
    rw [readsAs_iff, hzero, pow_zero, Nat.mul_one, Int.neg_neg, Int.toNat_natCast]
    exact hreads
  · intro hzero
    have hvalue : 0 < unitsAt n * 10 ^ k :=
      Nat.mul_pos (Nat.zero_lt_of_lt (unitsAt_strictMono hn)) (Nat.pow_pos (by decide))
    have hlower := hreads.lower
    rw [hzero] at hlower
    linarith [Nat.zero_le (unitsAt (n - 1) * 10 ^ k)]

/-- The last grid that is looked at is finer than half a unit. -/
theorem two_mul_unitsPerOne_le : 2 * unitsPerOne ≤ 10 ^ 345 := by
  have hpow : ∀ i ≤ 1, 2 ^ i * unitsPerOne ≤ 10 ^ 345 := fun i hi => by
    rw [two_pow_mul_unitsPerOne]
    exact two_pow_le_ten_pow 23 (by omega) (by decide)
  simpa only [pow_one] using hpow 1 (Nat.le_refl 1)

/-- **The shortest decimal of a magnitude is rounded to it.** It is not zero. -/
theorem ofDecimal_shortest {m : Magnitude} (hm : m.index ≠ 0) :
    ofDecimal m.shortest.1 m.shortest.2 = m ∧ m.shortest.1 ≠ 0 := by
  obtain ⟨hleast, hpos⟩ := readsAs_gridFloor (Nat.pos_of_ne_zero hm) two_mul_unitsPerOne_le
  obtain ⟨hreads, hne⟩ := coarsest_spec hleast hpos 654
  exact ⟨ofDecimal_of_readsAs hreads, hne⟩

end EntitySelection.Magnitude
