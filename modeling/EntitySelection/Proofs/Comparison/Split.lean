import EntitySelection.Proofs.Comparison.Coherence
import EntitySelection.Query

/-!
# Equal or different

**Theorem (`splits_iff`).** Of two numbers, infinities included, exactly one of equal and different
holds, except where the distance is exactly the tolerance, and there neither does; and where each
is at least the other they are equal (`Splits`). This is so unless the two are the same infinity.
Then they have no distance, and are neither equal nor different although each is at least the other
(`Unsplit`). So a query for equality holds of its own operand exactly when that is finite.

A distance and a tolerance that are numbers are on one side of each other or equal. The tolerance
is one always (`exists_tolerance`), the distance unless the infinities are the same
(`distance_eq_nan_iff`).
-/

namespace EntitySelection.Comparison

open Binary64

variable {c a : Binary64}

/-- Equal and different divide at the tolerance, and numbers that are in no order are equal. -/
structure Splits (c a : Binary64) : Prop where
  edge : (distance c a).sameValue (tolerance c a) = true →
    equal c a = false ∧ notEqual c a = false
  sides : (distance c a).sameValue (tolerance c a) = false → equal c a = !notEqual c a
  close : greaterOrEqual c a = true → lessOrEqual c a = true → equal c a = true

/-- Numbers without a distance that are in no order. -/
structure Unsplit (c a : Binary64) : Prop where
  distance : distance c a = .nan
  equal : equal c a = false
  notEqual : notEqual c a = false
  greaterOrEqual : greaterOrEqual c a = true
  lessOrEqual : lessOrEqual c a = true

theorem Unsplit.not_splits (h : Unsplit c a) : ¬ Splits c a := by
  intro hsplits
  have hequal := hsplits.close h.greaterOrEqual h.lessOrEqual
  rw [h.equal] at hequal
  cases hequal

/-- Where there is a distance, it is at the tolerance or on one side of it. -/
theorem splits_of_distance (h : distance c a ≠ .nan) : Splits c a := by
  obtain ⟨i, hi⟩ := exists_key h
  obtain ⟨m, hm, -⟩ := exists_tolerance c a
  have hne : tolerance c a ≠ .nan := by simp [hm]
  obtain ⟨j, hj⟩ := exists_key hne
  constructor
  case edge =>
    intro hedge
    rw [sameValue_eq hi hj, beq_iff_eq] at hedge
    rw [equal, notEqual, lt_eq hi hj, lt_eq hj hi, hedge]
    simp
  case sides =>
    intro hside
    rw [sameValue_eq hi hj, beq_eq_false_iff_ne] at hside
    exact lt_eq_not_lt hj hi hside.symm
  case close =>
    intro hge hle
    have hzero := (distance_of_key_eq (key_eq_of_le hle hge)).resolve_left h
    rw [equal, hzero]
    exact zero_lt_tolerance c a

theorem unsplit_of_infinite (h : c ≠ .nan) (hc : c.isFinite = false) : Unsplit c c := by
  have hnan : Comparison.distance c c = .nan := (distance_eq_nan_iff h h).2 ⟨rfl, hc⟩
  obtain ⟨i, hi⟩ := exists_key h
  have hle : c.le c = true := by
    rw [le_eq hi hi]
    simp
  constructor
  case distance => exact hnan
  case equal =>
    rw [Comparison.equal, hnan]
    rfl
  case notEqual =>
    rw [Comparison.notEqual, hnan]
    exact related_nan _ _
  case greaterOrEqual => exact hle
  case lessOrEqual => exact hle

/-- A query for equality on its own operand. -/
theorem evaluate_self (h : c ≠ .nan) :
    (Query.mk .equal c).evaluate Registry.default (.float c) = .ok c.isFinite := by
  have heval : (Query.mk .equal c).evaluate Registry.default (.float c) = .ok (equal c c) :=
    evaluate_default .equal c c
  rw [heval]
  cases hc : c.isFinite
  case true =>
    rw [equal, distance_self hc, zero_lt_tolerance]
  case false => rw [(unsplit_of_infinite h hc).equal]

/-- **The tolerance splits all numbers but equal infinities.** -/
theorem splits_iff (hc : c ≠ .nan) (ha : a ≠ .nan) :
    (Splits c a ↔ ¬ (c = a ∧ c.isFinite = false)) ∧
      (¬ Splits c a → Unsplit c a) ∧
      (Query.mk .equal c).evaluate Registry.default (.float c) = .ok c.isFinite := by
  refine ⟨?_, ?_, evaluate_self hc⟩
  · constructor
    · rintro h ⟨rfl, hinfinite⟩
      exact (unsplit_of_infinite hc hinfinite).not_splits h
    · intro h
      exact splits_of_distance (mt (distance_eq_nan_iff hc ha).1 h)
  · intro h
    by_cases hnan : distance c a = .nan
    · obtain ⟨rfl, hinfinite⟩ := (distance_eq_nan_iff hc ha).1 hnan
      exact unsplit_of_infinite hc hinfinite
    · exact absurd (splits_of_distance hnan) h

/-- Zero and the floor are just the tolerance apart. -/
theorem splits_floor : Binary64.zero ≠ .nan ∧ toleranceFloor ≠ .nan ∧
    Splits .zero toleranceFloor ∧
    equal .zero toleranceFloor = false ∧ notEqual .zero toleranceFloor = false := by
  have hzero : Binary64.zero ≠ .nan := nofun
  have hfloor : toleranceFloor ≠ .nan := nofun
  have hsplits : Splits .zero toleranceFloor := (splits_iff hzero hfloor).1.2 (by decide +kernel)
  exact ⟨hzero, hfloor, hsplits, hsplits.edge (by decide +kernel)⟩

/-- Infinity is at least and at most infinity, and not equal to it. -/
theorem not_splits_infinity : Binary64.infinity ≠ .nan ∧ Unsplit .infinity .infinity ∧
    ¬ Splits .infinity .infinity := by
  have hne : Binary64.infinity ≠ .nan := nofun
  have hunsplit : Unsplit .infinity .infinity := unsplit_of_infinite hne rfl
  exact ⟨hne, hunsplit, hunsplit.not_splits⟩

end EntitySelection.Comparison
