import EntitySelection.Binary64.Arithmetic
import EntitySelection.Proofs.Binary64.Error

/-!
# Signs

**Order.** Numbers are ordered by their keys (`lt_eq`, `le_eq`), and negation turns the order
around (`lt_neg`, `le_neg`).

**Sums.** The size of a sum stays what it is when the summands are exchanged, when both are
negated (`abs_add_neg`), and when one of them is replaced by a number with the same key
(`abs_add_congr`), that is by the other zero (`eq_or_zeros_of_key_eq`).

**Units.** Finite numbers are ordered as their numbers of units (`le_eq_of_units`), and the size of
their sum is that of the exact sum, rounded (`abs_add_of_units`).
-/

namespace EntitySelection

namespace Magnitude

theorem isInfinite_iff {m : Magnitude} : m.isInfinite = true ↔ m = infinity := by
  rw [isInfinite, beq_iff_eq]
  exact ⟨fun h => eq_of_index h, fun h => h ▸ rfl⟩

theorem round_zero : round 0 1 = zero := by decide +kernel

end Magnitude

namespace Binary64

variable {x y z : Binary64} {s t : Bool} {m n : Magnitude} {i j : Int}

/-! ## Order -/

theorem exists_key (hx : x ≠ nan) : ∃ i, x.key = some i := by
  cases x with
  | nan => exact absurd rfl hx
  | signed s m => exact ⟨_, rfl⟩

theorem lt_eq (hx : x.key = some i) (hy : y.key = some j) : x.lt y = decide (i < j) := by
  simp only [lt, related, hx, hy]

theorem le_eq (hx : x.key = some i) (hy : y.key = some j) : x.le y = decide (i ≤ j) := by
  simp only [le, related, hx, hy]

theorem sameValue_eq (hx : x.key = some i) (hy : y.key = some j) : x.sameValue y = (i == j) := by
  simp only [sameValue, related, hx, hy]

theorem lt_eq_not_le (hx : x ≠ nan) (hy : y ≠ nan) : x.lt y = !y.le x := by
  obtain ⟨i, hi⟩ := exists_key hx
  obtain ⟨j, hj⟩ := exists_key hy
  rw [lt_eq hi hj, le_eq hj hi, ← decide_not]
  simp only [Int.not_le]

/-- Only numbers are in a relation. -/
theorem exists_keys_of_related {r : Int → Int → Bool} (h : related r x y = true) :
    ∃ i j, x.key = some i ∧ y.key = some j ∧ r i j = true := by
  cases x with
  | nan => cases h
  | signed s m =>
    cases y with
    | nan => cases h
    | signed t n => exact ⟨_, _, rfl, rfl, h⟩

theorem not_lt_of_lt (h : x.lt y = true) : y.lt x = false := by
  obtain ⟨i, j, hi, hj, hlt⟩ := exists_keys_of_related h
  rw [decide_eq_true_eq] at hlt
  rw [lt_eq hj hi, decide_eq_false_iff_not]
  omega

/-- Of numbers with different keys exactly one is the larger. -/
theorem lt_eq_not_lt (hx : x.key = some i) (hy : y.key = some j) (hne : i ≠ j) :
    y.lt x = !x.lt y := by
  rw [lt_eq hx hy, lt_eq hy hx, ← decide_not, decide_eq_decide]
  omega

theorem key_eq_of_le (hxy : x.le y = true) (hyx : y.le x = true) : x.key = y.key := by
  obtain ⟨i, j, hi, hj, hle⟩ := exists_keys_of_related hxy
  rw [le_eq hj hi, decide_eq_true_eq] at hyx
  rw [decide_eq_true_eq] at hle
  rw [hi, hj, Int.le_antisymm hle hyx]

theorem key_eq_of_sameValue (h : x.sameValue y = true) : x.key = y.key := by
  obtain ⟨i, j, hi, hj, heq⟩ := exists_keys_of_related h
  rw [hi, hj, eq_of_beq heq]

theorem related_nan (r : Int → Int → Bool) (x : Binary64) : related r x nan = false := by
  cases x <;> rfl

theorem key_neg (x : Binary64) : x.neg.key = x.key.map (-·) := by
  cases x with
  | nan => rfl
  | signed s m => cases s <;> simp [neg, key, applySign]

theorem key_neg_congr (h : x.key = y.key) : x.neg.key = y.neg.key := by
  rw [key_neg, key_neg, h]

theorem related_neg (r : Int → Int → Bool) (x y : Binary64) :
    related r x.neg y.neg = related (fun i j => r (-i) (-j)) x y := by
  simp only [related, key_neg]
  cases x.key <;> cases y.key <;> rfl

theorem related_swap (r : Int → Int → Bool) (x y : Binary64) :
    related r y x = related (fun i j => r j i) x y := by
  simp only [related]
  cases x.key <;> cases y.key <;> rfl

theorem lt_neg (x y : Binary64) : x.neg.lt y.neg = y.lt x := by
  rw [lt, related_neg, lt, related_swap]
  simp only [Int.neg_lt_neg_iff]

theorem le_neg (x y : Binary64) : x.neg.le y.neg = y.le x := by
  rw [le, related_neg, le, related_swap]
  simp only [Int.neg_le_neg_iff]

/-- Different numbers with the same key are zeros. -/
theorem eq_or_zeros_of_key_eq (h : x.key = y.key) :
    x = y ∨ ∃ s t, x = signed s .zero ∧ y = signed t .zero := by
  cases x with
  | nan =>
    cases y with
    | nan => exact .inl rfl
    | signed t n => cases h
  | signed s m =>
    cases y with
    | nan => cases h
    | signed t n =>
      have hkeys : applySign s m.index = applySign t n.index := Option.some.inj h
      have hindex : m.index = n.index := by
        simp only [applySign] at hkeys
        split at hkeys <;> split at hkeys <;> omega
      obtain rfl := Magnitude.eq_of_index hindex
      by_cases hst : s = t
      · exact .inl (by rw [hst])
      · have hzero : m.index = 0 := by
          cases s <;> cases t <;> simp [applySign] at hkeys hst <;> omega
        obtain rfl : m = .zero := Magnitude.eq_of_index hzero
        exact .inr ⟨s, t, rfl, rfl⟩

/-! ## Sums -/

theorem neg_neg (x : Binary64) : x.neg.neg = x := by
  cases x with
  | nan => rfl
  | signed s m => rw [neg, neg, Bool.not_not]

theorem abs_ofUnits (s : Bool) (n : Int) :
    (ofUnits s n).abs = signed false (.round n.natAbs 1) := by
  unfold ofUnits
  split
  · next h => rw [abs, h, Int.natAbs_zero, Magnitude.round_zero]
  · rfl

/-- The sum of two finite numbers. -/
theorem add_signed (hm : m.isInfinite = false) (hn : n.isInfinite = false) :
    (signed s m).add (signed t n) =
      ofUnits (s && t) (applySign s m.units + applySign t n.units) := by
  simp only [add, hm, hn, Bool.false_eq_true, if_false]

theorem applySign_not (s : Bool) (n : Nat) : applySign (!s) n = -applySign s n := by
  cases s <;> simp [applySign]

theorem add_comm (x y : Binary64) : x.add y = y.add x := by
  cases x with
  | nan => cases y <;> rfl
  | signed s m =>
    cases y with
    | nan => rfl
    | signed t n =>
      cases hm : m.isInfinite <;> cases hn : n.isInfinite
      case false.false =>
        rw [add_signed hm hn, add_signed hn hm, Bool.and_comm, Int.add_comm]
      case true.true =>
        rw [Magnitude.isInfinite_iff] at hm hn
        subst hm hn
        cases s <;> cases t <;> rfl
      all_goals simp [add, hm, hn]

/-- Negating both summands keeps the size of a sum. -/
theorem abs_add_neg (x y : Binary64) : (x.neg.add y.neg).abs = (x.add y).abs := by
  cases x with
  | nan => rfl
  | signed s m =>
    cases y with
    | nan => rfl
    | signed t n =>
      cases hm : m.isInfinite <;> cases hn : n.isInfinite
      case false.false =>
        rw [neg, neg, add_signed hm hn, add_signed hm hn, abs_ofUnits, abs_ofUnits,
          applySign_not, applySign_not, ← Int.neg_add, Int.natAbs_neg]
      case true.true => cases s <;> cases t <;> simp [neg, add, abs, hm, hn]
      all_goals simp [neg, add, abs, hm, hn]

/-- Of the zeros either one may be added. -/
theorem abs_add_zero (x : Binary64) (s t : Bool) :
    (x.add (signed s .zero)).abs = (x.add (signed t .zero)).abs := by
  have hzero : Magnitude.zero.isInfinite = false := rfl
  have hunits : ∀ s, applySign s Magnitude.zero.units = 0 := by decide
  cases x with
  | nan => rfl
  | signed r m =>
    cases hm : m.isInfinite
    case false => rw [add_signed hm hzero, add_signed hm hzero, abs_ofUnits, abs_ofUnits,
      hunits, hunits]
    case true => simp [add, hm, hzero]

/-- The size of a sum is a matter of keys. -/
theorem abs_add_congr (x : Binary64) (h : y.key = z.key) : (x.add y).abs = (x.add z).abs := by
  obtain rfl | ⟨s, t, rfl, rfl⟩ := eq_or_zeros_of_key_eq h
  · rfl
  · exact abs_add_zero x s t

/-! ## Finite numbers -/

theorem units?_eq_some_iff : x.units? = some i ↔
    ∃ s m, x = signed s m ∧ m.isInfinite = false ∧ applySign s m.units = i := by
  cases x with
  | nan => simp [units?]
  | signed s m => cases hm : m.isInfinite <;> simp [units?, hm]

theorem exists_units (hx : x.isFinite = true) : ∃ i, x.units? = some i := by
  cases x with
  | nan => cases hx
  | signed s m =>
    have hm : m.isInfinite = false := by simpa [isFinite] using hx
    exact ⟨_, units?_eq_some_iff.2 ⟨s, m, rfl, hm, rfl⟩⟩

theorem units?_neg (x : Binary64) : x.neg.units? = x.units?.map (-·) := by
  cases x with
  | nan => rfl
  | signed s m => cases hm : m.isInfinite <;> simp [neg, units?, hm, applySign_not]

theorem isFinite_abs (x : Binary64) : x.abs.isFinite = x.isFinite := by cases x <;> rfl

/-- The size of a finite number. -/
theorem exists_magnitude (hx : x.units? = some i) :
    ∃ m : Magnitude, m.isInfinite = false ∧ m.units = i.natAbs := by
  obtain ⟨s, m, -, hm, rfl⟩ := units?_eq_some_iff.1 hx
  refine ⟨m, hm, ?_⟩
  cases s <;> simp [applySign]

theorem le_eq_of_units (hx : x.units? = some i) (hy : y.units? = some j) :
    x.le y = decide (i ≤ j) := by
  obtain ⟨s, m, rfl, -, rfl⟩ := units?_eq_some_iff.1 hx
  obtain ⟨t, n, rfl, -, rfl⟩ := units?_eq_some_iff.1 hy
  rw [le_eq rfl rfl, decide_eq_decide]
  have hmn := Magnitude.units_le_iff (m := m) (n := n)
  have hnm := Magnitude.units_le_iff (m := n) (n := m)
  have hm := Magnitude.units_eq_zero_iff (m := m)
  have hn := Magnitude.units_eq_zero_iff (m := n)
  cases s <;> cases t <;> simp only [applySign, Bool.false_eq_true, if_true, if_false] <;> omega

theorem abs_add_of_units (hx : x.units? = some i) (hy : y.units? = some j) :
    (x.add y).abs = signed false (.round (i + j).natAbs 1) := by
  obtain ⟨s, m, rfl, hm, rfl⟩ := units?_eq_some_iff.1 hx
  obtain ⟨t, n, rfl, hn, rfl⟩ := units?_eq_some_iff.1 hy
  rw [add_signed hm hn, abs_ofUnits]

end Binary64

end EntitySelection
