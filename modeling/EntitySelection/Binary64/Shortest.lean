import EntitySelection.Binary64.Rounding

/-!
# Shortest decimals

The *reading interval* of a magnitude holds the numbers that round to it. Its ends are half way
to the neighbours, and belong to it when the index is even. The shortest decimal of a magnitude
is the point of the coarsest decimal grid that has a point in this interval; of two, the nearer
to the magnitude, and of two equally near, the even one.
-/

namespace EntitySelection.Magnitude

/-- `d · 10 ^ e` as a fraction in half units, of `2 ^ -1075`. -/
def decimalHalfUnits (d : Nat) (e : Int) : Nat × Nat :=
  if 0 ≤ e then (2 * (d * Nat.pow 10 e.toNat * unitsPerOne), 1)
  else (2 * (d * unitsPerOne), Nat.pow 10 e.natAbs)

/-- Whether the decimal `d · 10 ^ e` rounds to the magnitude at index `n`. -/
def readsAs (n d : Nat) (e : Int) : Bool :=
  let (p, q) := decimalHalfUnits d e
  let lo := (unitsAt (n - 1) + unitsAt n) * q
  let hi := (unitsAt n + unitsAt (n + 1)) * q
  if n % 2 == 0 then lo ≤ p && p ≤ hi else lo < p && p < hi

/-- The whole part of the quotient of the magnitude at index `n` by `10 ^ e`. -/
def gridFloor (n : Nat) (e : Int) : Nat :=
  if 0 ≤ e then unitsAt n / (Nat.pow 10 e.toNat * unitsPerOne)
  else unitsAt n * Nat.pow 10 e.natAbs / unitsPerOne

/-- Twice the distance from `d · 10 ^ e` up to the magnitude, compared with one grid step. -/
def compareToMiddle (n d : Nat) (e : Int) : Ordering :=
  let (p, q) := decimalHalfUnits (2 * d + 1) e
  compare (4 * unitsAt n * q) p

/-- The decimal of the grid `10 ^ e` that stands for the magnitude, if one rounds to it. -/
def onGrid? (n : Nat) (e : Int) : Option Nat :=
  let d := gridFloor n e
  match readsAs n d e, readsAs n (d + 1) e with
  | true, true =>
    match compareToMiddle n d e with
    | .lt => some d
    | .gt => some (d + 1)
    | .eq => some (if d % 2 == 0 then d else d + 1)
  | true, false => some d
  | false, true => some (d + 1)
  | false, false => none

/-- The first grid with a hit, from `10 ^ (count + least)` down to `10 ^ least`. -/
def coarsest (n : Nat) (least : Int) : Nat → Nat × Int
  | 0 => (gridFloor n least, least)
  | count + 1 =>
    let e := least + (count + 1)
    match onGrid? n e with
    | some d => if d = 0 then coarsest n least count else (d, e)
    | none => coarsest n least count

/-- The shortest decimal `d · 10 ^ e` that rounds to a finite positive magnitude. -/
def shortest (m : Magnitude) : Nat × Int := coarsest m.index (-345) 654

end EntitySelection.Magnitude
