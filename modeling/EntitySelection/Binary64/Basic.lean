/-!
# Numbers of the binary64 format

**Magnitudes.** The non-negative numbers of the format, infinity included, are in order the
values of the indices `0, 1, …, 2047 · 2 ^ 52`. A magnitude is such an index. Its value is a
whole number of *units* of `2 ^ -1074`, the least positive number of the format. The first
`2 ^ 52` magnitudes are one unit apart; from there on each block of `2 ^ 52` magnitudes doubles
the distance. The index of infinity has the value `2 ^ 1024` that the next number would have.

**Numbers.** A number is a signed magnitude, or it is not a number. Zero has two signs.

**Order.** Numbers are compared through `key`, the signed index: the two zeros share a key, and
what is not a number has none.
-/

namespace EntitySelection

/-- The place of a non-negative binary64 number among all of them, infinity included. -/
structure Magnitude where
  index : Nat
  index_le : index ≤ 2047 <<< 52 := by omega
  deriving DecidableEq

namespace Magnitude

def zero : Magnitude := ⟨0, by omega⟩

def infinity : Magnitude := ⟨2047 <<< 52, Nat.le_refl _⟩

def isInfinite (m : Magnitude) : Bool := m.index == 2047 <<< 52

/-- The value at an index, in units of `2 ^ -1074`. -/
def unitsAt (n : Nat) : Nat :=
  if n < 1 <<< 52 then n else (1 <<< 52 + n % 1 <<< 52) <<< (n / 1 <<< 52 - 1)

/-- The number of units in one. -/
def unitsPerOne : Nat := 1 <<< 1074

/-- The value of a magnitude, in units of `2 ^ -1074`. -/
def units (m : Magnitude) : Nat := unitsAt m.index

end Magnitude

/-- A number of the binary64 format. -/
inductive Binary64 where
  | nan
  | signed (negative : Bool) (magnitude : Magnitude)
  deriving DecidableEq

namespace Binary64

def zero : Binary64 := .signed false .zero

def infinity : Binary64 := .signed false .infinity

instance : Inhabited Binary64 := ⟨zero⟩

def isFinite : Binary64 → Bool
  | nan => false
  | signed _ m => !m.isInfinite

def neg : Binary64 → Binary64
  | nan => nan
  | signed s m => signed (!s) m

def abs : Binary64 → Binary64
  | nan => nan
  | signed _ m => signed false m

/-- `n` with a sign. -/
def applySign (negative : Bool) (n : Nat) : Int := if negative then -(n : Int) else n

/-- The signed index of a number, by which numbers are ordered. -/
def key : Binary64 → Option Int
  | nan => none
  | signed s m => some (applySign s m.index)

/-- `r` holds of the keys of two numbers. -/
def related (r : Int → Int → Bool) (x y : Binary64) : Bool :=
  match x.key, y.key with
  | some a, some b => r a b
  | _, _ => false

def lt (x y : Binary64) : Bool := related (fun a b => a < b) x y

def le (x y : Binary64) : Bool := related (fun a b => a ≤ b) x y

/-- Equality of values: the zeros are equal, and what is not a number differs from itself. -/
def sameValue (x y : Binary64) : Bool := related (fun a b => a == b) x y

/-- The value of a finite number, in units of `2 ^ -1074`. -/
def units? : Binary64 → Option Int
  | nan => none
  | signed s m => if m.isInfinite then none else some (applySign s m.units)

end Binary64

end EntitySelection
