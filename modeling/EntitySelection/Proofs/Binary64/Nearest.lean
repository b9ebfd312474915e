import EntitySelection.Binary64.Rounding
import Mathlib.Order.Monotone.Basic
import Mathlib.Tactic.Linarith
import Mathlib.Tactic.Ring

/-!
# Rounding is to the nearest

The *reading interval* of a magnitude reaches half way to its neighbours, and its ends belong to
it when the index is even (`Reads`).

**Spacing.** Index `x * 2 ^ 52 + k` has the value `k * 2 ^ x`, when `k` is in the block of `x` or
at its end (`unitsAt_block`). So values grow with the index (`unitsAt_strictMono`).

**Theorem (`roundIndex_eq_iff`).** A quotient is rounded to an index exactly when it is in the
reading interval of that index. One direction is the arithmetic of `roundIndex`; the other holds
because no two intervals overlap (`Reads.le`).

So rounding does not depend on how a quotient is written (`round_congr`).
-/

namespace EntitySelection.Magnitude

/-! ## Spacing -/

/-- The definition in powers of two. -/
theorem unitsAt_eq (n : Nat) :
    unitsAt n = if n < 2 ^ 52 then n else (2 ^ 52 + n % 2 ^ 52) * 2 ^ (n / 2 ^ 52 - 1) := by
  simp only [unitsAt, Nat.shiftLeft_eq, Nat.one_mul]

theorem unitsAt_zero : unitsAt 0 = 0 := rfl

/-- The values of a block are `2 ^ x` apart. Its end is the start of the next one. -/
theorem unitsAt_block {x k : Nat} (hk : k ≤ 2 ^ 53) (hx : x = 0 ∨ 2 ^ 52 ≤ k) :
    unitsAt (x * 2 ^ 52 + k) = k * 2 ^ x := by
  rw [unitsAt_eq]
  split
  · obtain rfl : x = 0 := by omega
    simp
  · rcases Nat.lt_or_ge k (2 ^ 53) with hlt | hge
    · have hdiv : (x * 2 ^ 52 + k) / 2 ^ 52 - 1 = x := by omega
      have hmod : 2 ^ 52 + (x * 2 ^ 52 + k) % 2 ^ 52 = k := by omega
      rw [hdiv, hmod]
    · obtain rfl : k = 2 ^ 53 := by omega
      have hdiv : (x * 2 ^ 52 + 2 ^ 53) / 2 ^ 52 - 1 = x + 1 := by omega
      have hmod : (x * 2 ^ 52 + 2 ^ 53) % 2 ^ 52 = 0 := by omega
      rw [hdiv, hmod, Nat.pow_succ]
      ring

/-- Every index is in a block. -/
theorem exists_block (n : Nat) :
    ∃ x k, k ≤ 2 ^ 53 ∧ (x = 0 ∨ 2 ^ 52 ≤ k) ∧ n = x * 2 ^ 52 + k := by
  rcases Nat.lt_or_ge n (2 ^ 52) with h | h
  · exact ⟨0, n, by omega, .inl rfl, by omega⟩
  · exact ⟨n / 2 ^ 52 - 1, 2 ^ 52 + n % 2 ^ 52, by omega, by omega, by omega⟩

/-- Within a block, and at its end, the next magnitude is at least the distance away. -/
theorem unitsAt_succ_ge {x k : Nat} (hk : k ≤ 2 ^ 53) (hx : x = 0 ∨ 2 ^ 52 ≤ k) :
    (k + 1) * 2 ^ x ≤ unitsAt (x * 2 ^ 52 + k + 1) := by
  rcases Nat.lt_or_ge k (2 ^ 53) with hlt | hge
  · rw [Nat.add_assoc, unitsAt_block (by omega) (by omega)]
  · obtain rfl : k = 2 ^ 53 := by omega
    have hnext : x * 2 ^ 52 + 2 ^ 53 + 1 = (x + 1) * 2 ^ 52 + (2 ^ 52 + 1) := by omega
    rw [hnext, unitsAt_block (by omega) (by omega), pow_succ 2 x]
    linarith [Nat.two_pow_pos x]

theorem unitsAt_lt_succ (n : Nat) : unitsAt n < unitsAt (n + 1) := by
  obtain ⟨x, k, hk, hx, rfl⟩ := exists_block n
  rw [unitsAt_block hk hx]
  exact Nat.lt_of_lt_of_le (by linarith [Nat.two_pow_pos x]) (unitsAt_succ_ge hk hx)

theorem unitsAt_strictMono : StrictMono unitsAt := strictMono_nat_of_lt_succ unitsAt_lt_succ

/-! ## Rounding to whole numbers -/

theorem roundQuotient_spec {p q : Nat} (hq : 0 < q) :
    (p / q ≤ roundQuotient p q ∧ roundQuotient p q ≤ p / q + 1) ∧
      (2 * (roundQuotient p q * q) ≤ 2 * p + q ∧ 2 * p ≤ 2 * (roundQuotient p q * q) + q) ∧
      (roundQuotient p q % 2 = 1 →
        2 * (roundQuotient p q * q) < 2 * p + q ∧ 2 * p < 2 * (roundQuotient p q * q) + q) := by
  have hp := Nat.div_add_mod' p q
  have hr := Nat.mod_lt p hq
  unfold roundQuotient
  simp only [Bool.or_eq_true, Bool.and_eq_true, decide_eq_true_eq, beq_iff_eq]
  split
  · next hup =>
    rw [Nat.add_mul]
    omega
  · omega

/-! ## Reading intervals -/

variable {n m p q : Nat}

/-- The quotient `p / q` is in the reading interval of the magnitude at index `n`. -/
structure Reads (n p q : Nat) : Prop where
  lower : (unitsAt (n - 1) + unitsAt n) * q ≤ 2 * p
  upper : 2 * p ≤ (unitsAt n + unitsAt (n + 1)) * q
  lower_odd : n % 2 = 1 → (unitsAt (n - 1) + unitsAt n) * q < 2 * p
  upper_odd : n % 2 = 1 → 2 * p < (unitsAt n + unitsAt (n + 1)) * q

/-- The upper end of an interval is at least half the distance away. -/
theorem interval_above {x k : Nat} (hk : k ≤ 2 ^ 53) (hx : x = 0 ∨ 2 ^ 52 ≤ k) (q : Nat) :
    2 * (k * (q * 2 ^ x)) + q * 2 ^ x ≤
      (unitsAt (x * 2 ^ 52 + k) + unitsAt (x * 2 ^ 52 + k + 1)) * q := by
  have hnext := Nat.mul_le_mul_right q (unitsAt_succ_ge hk hx)
  rw [unitsAt_block hk hx]
  linarith

/-- The lower end is half the distance away, except at the start of a block, where it is nearer. -/
theorem interval_below {x j : Nat} (hj : j < 2 ^ 53) (hx : x = 0 ∨ 2 ^ 52 ≤ j) (q : Nat) :
    (unitsAt (x * 2 ^ 52 + j) + unitsAt (x * 2 ^ 52 + (j + 1))) * q + q * 2 ^ x =
      2 * ((j + 1) * (q * 2 ^ x)) := by
  rw [unitsAt_block (by omega) hx, unitsAt_block (by omega) (by omega)]
  ring

/-! ## The index of a quotient -/

/-- A quotient has 53 binary digits before the point once its excess is taken away. -/
theorem div_excess (p q : Nat) :
    p / (q * 2 ^ excess p q) < 2 ^ 53 ∧
      (excess p q = 0 ∨ 2 ^ 52 ≤ p / (q * 2 ^ excess p q)) := by
  rw [← Nat.div_div_eq_div_mul, Nat.div_lt_iff_lt_mul (Nat.two_pow_pos _),
    Nat.le_div_iff_mul_le (Nat.two_pow_pos _), ← pow_add, ← pow_add]
  have hlt := Nat.lt_log2_self (n := p / q)
  constructor
  · refine hlt.trans_le (Nat.pow_le_pow_right (by omega) ?_)
    unfold excess
    omega
  · by_cases hlarge : 52 < Nat.log2 (p / q)
    · have hne : p / q ≠ 0 := by
        intro h0
        rw [h0] at hlarge
        simp at hlarge
      have hlog : 52 + excess p q = Nat.log2 (p / q) := by
        unfold excess
        omega
      rw [hlog]
      exact .inr (Nat.log2_self_le hne)
    · unfold excess
      exact .inl (by omega)

theorem roundIndex_eq (p q : Nat) :
    roundIndex p q = excess p q * 2 ^ 52 + roundQuotient p (q * 2 ^ excess p q) := by
  simp only [roundIndex, Nat.shiftLeft_eq]

/-- A quotient is in the reading interval of its index. -/
theorem reads_roundIndex (hq : 0 < q) : Reads (roundIndex p q) p q := by
  obtain ⟨hblock, hleast⟩ := div_excess p q
  have hQ : 0 < q * 2 ^ excess p q := Nat.mul_pos hq (Nat.two_pow_pos _)
  obtain ⟨⟨hge, hle⟩, ⟨hlo, hhi⟩, hodd⟩ := roundQuotient_spec (p := p) hQ
  have hdown := Nat.div_mul_le_self p (q * 2 ^ excess p q)
  rw [roundIndex_eq]
  generalize excess p q = x at *
  generalize roundQuotient p (q * 2 ^ x) = k at *
  generalize p / (q * 2 ^ x) = d at *
  have hk : k ≤ 2 ^ 53 := by omega
  have hx : x = 0 ∨ 2 ^ 52 ≤ k := by omega
  have hparity : (x * 2 ^ 52 + k) % 2 = k % 2 := by omega
  have hupper := interval_above hk hx q
  have hlower : (unitsAt (x * 2 ^ 52 + k - 1) + unitsAt (x * 2 ^ 52 + k)) * q + q * 2 ^ x ≤
        2 * (k * (q * 2 ^ x)) ∨
      k % 2 = 0 ∧ (unitsAt (x * 2 ^ 52 + k - 1) + unitsAt (x * 2 ^ 52 + k)) * q ≤ 2 * p := by
    by_cases hstart : x = 0 ∨ 2 ^ 52 < k
    · cases k with
      | zero =>
        obtain rfl : x = 0 := by omega
        exact .inr ⟨rfl, by simp [unitsAt_zero]⟩
      | succ j =>
        have hpred : x * 2 ^ 52 + (j + 1) - 1 = x * 2 ^ 52 + j := by omega
        rw [hpred]
        exact .inl (interval_below (by omega) (by omega) q).le
    · -- No quotient is rounded up to the start of a block.
      obtain rfl : d = k := by omega
      have hprev := unitsAt_strictMono.monotone (Nat.sub_le (x * 2 ^ 52 + d) 1)
      have hsum := Nat.mul_le_mul_right q hprev
      rw [unitsAt_block hk hx] at hsum ⊢
      exact .inr ⟨by omega, by linarith⟩
  refine ⟨by omega, hhi.trans hupper, fun h => ?_, fun h => ?_⟩
  · have hstrict := (hodd (hparity ▸ h)).1
    omega
  · exact (hodd (hparity ▸ h)).2.trans_le hupper

/-! ## Uniqueness -/

/-- Reading intervals do not overlap, and where they touch only the even one has the end. -/
theorem Reads.le {m n p q : Nat} (hq : 0 < q) (hm : Reads m p q) (hn : Reads n p q) : n ≤ m := by
  by_contra hlt
  have hprev : unitsAt m ≤ unitsAt (n - 1) := unitsAt_strictMono.monotone (by omega)
  have hnext : unitsAt (m + 1) ≤ unitsAt n := unitsAt_strictMono.monotone (by omega)
  have htouch := Nat.le_of_mul_le_mul_right (hn.lower.trans hm.upper) hq
  have hsucc : m = n - 1 := unitsAt_strictMono.injective (by omega)
  rcases Nat.mod_two_eq_zero_or_one m with heven | hodd
  · have hlow := hn.lower_odd (by omega)
    exact absurd (Nat.lt_of_mul_lt_mul_right (hlow.trans_le hm.upper)) (by omega)
  · have hupp := hm.upper_odd hodd
    exact absurd (Nat.lt_of_mul_lt_mul_right (hn.lower.trans_lt hupp)) (by omega)

/-- **Rounding gives the magnitude whose reading interval the quotient is in.** -/
theorem roundIndex_eq_iff (hq : 0 < q) : roundIndex p q = n ↔ Reads n p q := by
  constructor
  · rintro rfl
    exact reads_roundIndex hq
  · intro hn
    have hr := reads_roundIndex (p := p) hq
    exact Nat.le_antisymm (hn.le hq hr) (hr.le hq hn)

section Congruence

variable {a p' q' : Nat}

theorem mul_le_congr (hq : 0 < q) (hq' : 0 < q') (heq : p * q' = p' * q) :
    a * q ≤ 2 * p ↔ a * q' ≤ 2 * p' := by
  rw [← Nat.mul_le_mul_right_iff hq', Nat.mul_assoc 2, heq, Nat.mul_right_comm, ← Nat.mul_assoc 2,
    Nat.mul_le_mul_right_iff hq]

theorem mul_lt_congr (hq : 0 < q) (hq' : 0 < q') (heq : p * q' = p' * q) :
    a * q < 2 * p ↔ a * q' < 2 * p' := by
  rw [← Nat.mul_lt_mul_right hq', Nat.mul_assoc 2, heq, Nat.mul_right_comm, ← Nat.mul_assoc 2,
    Nat.mul_lt_mul_right hq]

/-- Whether a quotient is in a reading interval does not depend on how it is written. -/
theorem Reads.congr (hq : 0 < q) (hq' : 0 < q') (heq : p * q' = p' * q) (h : Reads n p q) :
    Reads n p' q' where
  lower := (mul_le_congr hq hq' heq).1 h.lower
  upper := not_lt.1 fun hlt => h.upper.not_gt ((mul_lt_congr hq hq' heq).2 hlt)
  lower_odd hodd := (mul_lt_congr hq hq' heq).1 (h.lower_odd hodd)
  upper_odd hodd := not_le.1 fun hle => (h.upper_odd hodd).not_ge ((mul_le_congr hq hq' heq).2 hle)

end Congruence

theorem eq_of_index {m n : Magnitude} (h : m.index = n.index) : m = n := by
  cases m
  cases n
  cases h
  rfl

/-- Equal quotients are rounded to the same magnitude. -/
theorem round_congr {p' q' : Nat} (hq : 0 < q) (hq' : 0 < q') (heq : p * q' = p' * q) :
    round p q = round p' q' := by
  have hindex : roundIndex p q = roundIndex p' q' :=
    (roundIndex_eq_iff hq).2 ((reads_roundIndex hq').congr hq' hq heq.symm)
  exact eq_of_index (congrArg (min · (2047 <<< 52)) hindex)

/-- **A quotient in the reading interval of a magnitude is rounded to it.** -/
theorem round_eq_of_reads {m : Magnitude} (hq : 0 < q) (h : Reads m.index p q) :
    round p q = m := by
  have hindex := congrArg (min · (2047 <<< 52)) ((roundIndex_eq_iff hq).2 h)
  exact eq_of_index (hindex.trans (Nat.min_eq_left m.index_le))

/-- A quotient of at least the value of a magnitude is not rounded below it. -/
theorem le_roundIndex (hq : 0 < q) (h : unitsAt n * q ≤ p) : n ≤ roundIndex p q := by
  by_contra hlt
  have hr := reads_roundIndex (p := p) hq
  have hindex : unitsAt (roundIndex p q) < unitsAt n := unitsAt_strictMono (by omega)
  have hnext : unitsAt (roundIndex p q + 1) ≤ unitsAt n := unitsAt_strictMono.monotone (by omega)
  have hsum : (unitsAt (roundIndex p q) + unitsAt (roundIndex p q + 1)) * q < 2 * unitsAt n * q :=
    Nat.mul_lt_mul_of_pos_right (by omega) hq
  linarith [hr.upper]

end EntitySelection.Magnitude
