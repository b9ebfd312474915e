import EntitySelection.Comparison
import EntitySelection.Proofs.Binary64.Sign

/-!
# Distance and tolerance

Equality compares the distance of two numbers with their tolerance.

**Tolerance.** Whatever the numbers are, the tolerance is a number, and at least the floor
(`exists_tolerance`): a sum that is not a number loses against the floor. It may be infinite.

**Distance.** The distance is not a number when one of the two is not, and when the two are the
same infinity (`distance_eq_nan_iff`). Every other number has the distance zero from itself.

Distance and tolerance stay what they are when the numbers are exchanged, when both are negated,
and when one is replaced by a number with the same key.
-/

namespace EntitySelection.Comparison

open Binary64

variable {c a x y : Binary64} {m n : Magnitude}

/-! ## Symmetry -/

theorem distance_comm (c a : Binary64) : distance c a = distance a c := by
  calc (c.add a.neg).abs = (c.neg.add a.neg.neg).abs := (abs_add_neg c a.neg).symm
    _ = (c.neg.add a).abs := by rw [neg_neg]
    _ = (a.add c.neg).abs := by rw [add_comm]

theorem distance_neg (c a : Binary64) : distance c.neg a.neg = distance c a :=
  abs_add_neg c a.neg

theorem distance_congr (c : Binary64) (h : x.key = y.key) : distance c x = distance c y :=
  abs_add_congr c (key_neg_congr h)

theorem tolerance_comm (c a : Binary64) : tolerance c a = tolerance a c := by
  rw [tolerance, tolerance, add_comm]

theorem tolerance_neg (c a : Binary64) : tolerance c.neg a.neg = tolerance c a := by
  rw [tolerance, tolerance, abs_add_neg]

theorem tolerance_congr (c : Binary64) (h : x.key = y.key) : tolerance c x = tolerance c y := by
  rw [tolerance, tolerance, abs_add_congr c h]

/-! ## The tolerance -/

/-- The least tolerance as a magnitude. -/
def floor : Magnitude := .ofDecimal 1 (-7)

theorem toleranceFloor_eq : toleranceFloor = .signed false floor := rfl

theorem floor_pos : 0 < floor.index := by decide +kernel

/-- The tolerance that a sum of size `m` asks for. -/
def portion (m : Magnitude) : Magnitude := if m.isInfinite then m else .round m.units 10000

theorem toleranceScale_eq : ∃ m, toleranceScale = .signed false m ∧ m.isInfinite = false ∧
    m.units = 10000 * Magnitude.unitsPerOne :=
  ⟨.ofQuotient 10000 1, rfl, by decide +kernel, by decide +kernel⟩

theorem div_toleranceScale (m : Magnitude) :
    (Binary64.signed false m).div toleranceScale = .signed false (portion m) := by
  obtain ⟨scale, hscale, hfinite, hunits⟩ := toleranceScale_eq
  have hpos : 0 < 10000 * Magnitude.unitsPerOne :=
    Nat.mul_pos (by decide) Magnitude.unitsPerOne_pos
  have hquotient : Magnitude.ofQuotient m.units scale.units = .round m.units 10000 := by
    refine Magnitude.round_congr (hunits ▸ hpos) (by decide) ?_
    rw [hunits]
    ring
  rw [hscale, portion]
  cases hm : m.isInfinite
  case true => simp [div, hm, hfinite]
  case false => simp [div, hm, hfinite, hunits, hpos.ne', ← hquotient]

/-- The larger of two magnitudes. -/
theorem maximum_signed (m n : Magnitude) :
    maximum (.signed false m) (.signed false n) =
      .signed false (if m.index < n.index then n else m) := by
  rw [maximum, lt_eq (y := .signed false n) rfl rfl]
  simp only [applySign, Bool.false_eq_true, if_false, Int.ofNat_lt, decide_eq_true_eq]
  split <;> rfl

/-- **The tolerance is a number, and at least the floor.** -/
theorem exists_tolerance (c a : Binary64) :
    ∃ m, tolerance c a = .signed false m ∧ floor.index ≤ m.index := by
  rw [tolerance, toleranceFloor_eq]
  cases c.add a with
  | nan => exact ⟨floor, rfl, Nat.le_refl _⟩
  | signed s m =>
    rw [Binary64.abs, div_toleranceScale, maximum_signed]
    refine ⟨_, rfl, ?_⟩
    split
    · next h => exact Nat.le_of_lt h
    · exact Nat.le_refl _

theorem zero_lt_tolerance (c a : Binary64) : Binary64.zero.lt (tolerance c a) = true := by
  obtain ⟨m, hm, hfloor⟩ := exists_tolerance c a
  have hpos := floor_pos
  have hkey : Binary64.zero.key = some 0 := rfl
  have hkey' : (Binary64.signed false m).key = some (m.index : Int) := rfl
  rw [hm, lt_eq hkey hkey', decide_eq_true_eq]
  omega

/-! ## The distance -/

theorem distance_nan (c : Binary64) : distance c .nan = .nan := by cases c <;> rfl

theorem abs_eq_nan_iff : x.abs = .nan ↔ x = .nan := by cases x <;> simp [Binary64.abs]

theorem distance_self (h : c.isFinite = true) : distance c c = .zero := by
  cases c with
  | nan => cases h
  | signed s m =>
    have hm : m.isInfinite = false := by simpa [isFinite] using h
    rw [distance, sub, neg, add_signed hm hm, abs_ofUnits, applySign_not, Int.add_right_neg,
      Int.natAbs_zero, Magnitude.round_zero, zero]

/-- **Only equal infinities have no distance**, of all numbers. -/
theorem distance_eq_nan_iff (hc : c ≠ .nan) (ha : a ≠ .nan) :
    distance c a = .nan ↔ c = a ∧ c.isFinite = false := by
  rw [distance, abs_eq_nan_iff, sub]
  cases c with
  | nan => exact absurd rfl hc
  | signed s m =>
    cases a with
    | nan => exact absurd rfl ha
    | signed t n =>
      cases hm : m.isInfinite <;> cases hn : n.isInfinite
      case true.true =>
        rw [Magnitude.isInfinite_iff] at hm hn
        subst hm hn
        cases s <;> cases t <;> decide
      case true.false =>
        have hne : m ≠ n := by
          rintro rfl
          simp [hm] at hn
        simp [add, neg, hm, hn, hne]
      all_goals simp [add, neg, isFinite, hm, hn, ofUnits]
      all_goals split <;> simp

/-- Numbers of one key have no distance, or the distance zero. -/
theorem distance_of_key_eq (h : c.key = a.key) : distance c a = .nan ∨ distance c a = .zero := by
  rw [distance_congr c h.symm]
  cases hfinite : c.isFinite
  case true => exact .inr (distance_self hfinite)
  case false =>
    left
    cases c with
    | nan => rfl
    | signed s m =>
      have hne : Binary64.signed s m ≠ .nan := nofun
      exact (distance_eq_nan_iff hne hne).2 ⟨rfl, hfinite⟩

end EntitySelection.Comparison
