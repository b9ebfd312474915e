import EntitySelection.Binary64.Basic

/-!
# Rounding to binary64

A non-negative quotient is rounded to the nearest magnitude; of two that are equally near, the
one with the even index is taken. A quotient that rounds to `2 ^ 1024` or more is infinite.

The quotient is scaled so that its whole part has 53 binary digits, or fewer below `2 ^ 53`
units; the rounded whole part then counts the indices from the start of its block.
-/

namespace EntitySelection

/-- `p / q` rounded to the nearest whole number, a half to the even one. -/
def roundQuotient (p q : Nat) : Nat :=
  let d := p / q
  let r := p % q
  if q < 2 * r || (2 * r == q && d % 2 == 1) then d + 1 else d

namespace Magnitude

/-- The number of binary digits of `p / q` units that the format cannot hold. -/
def excess (p q : Nat) : Nat := Nat.log2 (p / q) - 52

/-- The index nearest to `p / q` units, if the format had no largest number. -/
def roundIndex (p q : Nat) : Nat :=
  excess p q <<< 52 + roundQuotient p (q <<< excess p q)

/-- The magnitude nearest to `p / q` units of `2 ^ -1074`. -/
def round (p q : Nat) : Magnitude :=
  ⟨min (roundIndex p q) (2047 <<< 52), Nat.min_le_right _ _⟩

/-- The magnitude nearest to the quotient `p / q`. -/
def ofQuotient (p q : Nat) : Magnitude := round (p * unitsPerOne) q

/-- The magnitude nearest to `coefficient · 10 ^ exponent`. Far beyond the range of the format
the power of ten is not computed. -/
def ofDecimal (coefficient : Nat) (exponent : Int) : Magnitude :=
  if coefficient = 0 then zero
  else if 400 < exponent then infinity
  else if 0 ≤ exponent then ofQuotient (coefficient * Nat.pow 10 exponent.toNat) 1
  else if Nat.log2 coefficient + 400 < exponent.natAbs then zero
  else ofQuotient coefficient (Nat.pow 10 exponent.natAbs)

end Magnitude

namespace Binary64

/-- The number nearest to a whole number. -/
def ofInt (n : Int) : Binary64 := .signed (n < 0) (.ofQuotient n.natAbs 1)

end Binary64

end EntitySelection
