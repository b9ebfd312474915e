import EntitySelection.Proofs.Comparison.Tolerance
import EntitySelection.Registry

/-!
# The comparisons belong together

**Theorem (`coherent_default`).** The default registry answers with the six comparisons, and these
are coherent (`Coherent`), whatever numbers they are given, infinities and zeros of either sign
included. What is not a number passes none of them. Of the others, greater is the contrary of less
or equal, and lesser that of greater or equal. Equal and different exclude each other, and of two
numbers that are different exactly one is greater.

Each comparison has a *mirror image*: the same one for equal and different, and the opposite one for
the four that ask for an order. It is what becomes of a comparison when the numbers are exchanged,
and also when both are negated.

That different numbers are in order needs a word, because being different is a matter of a rounded
distance. Numbers of one key have the distance zero or none at all, and neither is beyond a
tolerance that is never below the floor (`key_ne_of_notEqual`).
-/

namespace EntitySelection

/-- The comparator for the exchanged numbers. -/
def Comparator.mirrored : Comparator → Comparator
  | equal => equal
  | notEqual => notEqual
  | greater => lesser
  | lesser => greater
  | greaterOrEqual => lessOrEqual
  | lessOrEqual => greaterOrEqual

namespace Comparison

open Binary64

variable {c a : Binary64}

/-- The laws that six comparisons have in common. -/
structure Coherent (compare : Comparator → Comparison) : Prop where
  nan : ∀ k x, compare k .nan x = false ∧ compare k x .nan = false
  greater : ∀ c a, c ≠ .nan → a ≠ .nan →
    compare .greater c a = !compare .lessOrEqual c a
  lesser : ∀ c a, c ≠ .nan → a ≠ .nan →
    compare .lesser c a = !compare .greaterOrEqual c a
  ordered : ∀ c a, ¬ (compare .greater c a = true ∧ compare .lesser c a = true)
  apart : ∀ c a, ¬ (compare .equal c a = true ∧ compare .notEqual c a = true)
  strict : ∀ c a, compare .notEqual c a = true → compare .greater c a = !compare .lesser c a
  swap : ∀ k c a, compare k a c = compare k.mirrored c a
  neg : ∀ k c a, compare k c.neg a.neg = compare k.mirrored c a

/-! ## Laws of equality -/

theorem equal_nan (x : Binary64) : equal .nan x = false ∧ equal x .nan = false := by
  constructor
  · rfl
  · rw [equal, distance_nan]
    rfl

theorem notEqual_nan (x : Binary64) : notEqual .nan x = false ∧ notEqual x .nan = false := by
  constructor
  · show (tolerance .nan x).lt .nan = false
    exact related_nan _ _
  · rw [notEqual, distance_nan]
    exact related_nan _ _

/-- Different numbers have different keys. -/
theorem key_ne_of_notEqual (h : notEqual c a = true) :
    ∃ i j, c.key = some i ∧ a.key = some j ∧ i ≠ j := by
  have hc : c ≠ .nan := by
    rintro rfl
    rw [(notEqual_nan a).1] at h
    cases h
  have ha : a ≠ .nan := by
    rintro rfl
    rw [(notEqual_nan c).2] at h
    cases h
  obtain ⟨i, hi⟩ := exists_key hc
  obtain ⟨j, hj⟩ := exists_key ha
  refine ⟨i, j, hi, hj, ?_⟩
  rintro rfl
  rw [notEqual] at h
  rcases distance_of_key_eq (hi.trans hj.symm) with hnan | hzero
  · rw [hnan, lt, related_nan] at h
    cases h
  · rw [hzero, not_lt_of_lt (zero_lt_tolerance c a)] at h
    cases h

/-! ## Mirror images -/

theorem comparison_swap (k : Comparator) (c a : Binary64) :
    k.comparison a c = k.mirrored.comparison c a := by
  cases k with
  | equal =>
    show (distance a c).lt (tolerance a c) = (distance c a).lt (tolerance c a)
    rw [distance_comm, tolerance_comm]
  | notEqual =>
    show (tolerance a c).lt (distance a c) = (tolerance c a).lt (distance c a)
    rw [distance_comm, tolerance_comm]
  | greater | lesser | greaterOrEqual | lessOrEqual => rfl

theorem comparison_neg (k : Comparator) (c a : Binary64) :
    k.comparison c.neg a.neg = k.mirrored.comparison c a := by
  cases k with
  | equal =>
    show (distance c.neg a.neg).lt (tolerance c.neg a.neg) = (distance c a).lt (tolerance c a)
    rw [distance_neg, tolerance_neg]
  | notEqual =>
    show (tolerance c.neg a.neg).lt (distance c.neg a.neg) = (tolerance c a).lt (distance c a)
    rw [distance_neg, tolerance_neg]
  | greater | lesser => exact lt_neg _ _
  | greaterOrEqual | lessOrEqual => exact le_neg _ _

/-! ## Coherence -/

theorem evaluate_default (k : Comparator) (c a : Binary64) :
    Registry.default.evaluate (.known k) c a = .ok (k.comparison c a) := by
  cases k <;> rfl

/-- **The default comparisons are coherent.** -/
theorem coherent_default :
    (∀ k c a, Registry.default.evaluate (.known k) c a = .ok (k.comparison c a)) ∧
      Coherent Comparator.comparison := by
  refine ⟨evaluate_default, ?_⟩
  constructor
  case nan =>
    intro k x
    cases k with
    | equal => exact equal_nan x
    | notEqual => exact notEqual_nan x
    | greater | lesser | greaterOrEqual | lessOrEqual =>
      exact ⟨by cases x <;> rfl, by cases x <;> rfl⟩
  case greater => exact fun c a hc ha => lt_eq_not_le ha hc
  case lesser => exact fun c a hc ha => lt_eq_not_le hc ha
  case ordered =>
    rintro c a ⟨hgreater, hlesser⟩
    have hnot : c.lt a = false := not_lt_of_lt hgreater
    exact absurd hlesser (by simp [Comparator.comparison, lesser, hnot])
  case apart =>
    rintro c a ⟨hequal, hdifferent⟩
    have hnot : (tolerance c a).lt (distance c a) = false := not_lt_of_lt hequal
    exact absurd hdifferent (by simp [Comparator.comparison, notEqual, hnot])
  case strict =>
    intro c a h
    obtain ⟨i, j, hi, hj, hne⟩ := key_ne_of_notEqual h
    exact lt_eq_not_lt hi hj hne
  case swap => exact comparison_swap
  case neg => exact comparison_neg

end Comparison

end EntitySelection
