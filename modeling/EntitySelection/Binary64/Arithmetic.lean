import EntitySelection.Binary64.Rounding

/-!
# Arithmetic of binary64

Each operation is the exact one, rounded once. A sum that is exactly zero is negative only if
both summands are.
-/

namespace EntitySelection.Binary64

/-- A whole number of units of `2 ^ -1074`, rounded; `negative` is the sign of zero. -/
def ofUnits (negative : Bool) (n : Int) : Binary64 :=
  if n = 0 then .signed negative .zero else .signed (n < 0) (.round n.natAbs 1)

def add : Binary64 → Binary64 → Binary64
  | nan, _ => nan
  | _, nan => nan
  | signed s a, signed t b =>
    if a.isInfinite then
      if b.isInfinite && s != t then nan else signed s a
    else if b.isInfinite then signed t b
    else ofUnits (s && t) (applySign s a.units + applySign t b.units)

def sub (x y : Binary64) : Binary64 := add x y.neg

def mul : Binary64 → Binary64 → Binary64
  | nan, _ => nan
  | _, nan => nan
  | signed s a, signed t b =>
    if a.isInfinite || b.isInfinite then
      if a.units = 0 || b.units = 0 then nan else signed (s != t) .infinity
    else signed (s != t) (.round (a.units * b.units) Magnitude.unitsPerOne)

def div : Binary64 → Binary64 → Binary64
  | nan, _ => nan
  | _, nan => nan
  | signed s a, signed t b =>
    if a.isInfinite then
      if b.isInfinite then nan else signed (s != t) a
    else if b.isInfinite then signed (s != t) .zero
    else if b.units = 0 then
      if a.units = 0 then nan else signed (s != t) .infinity
    else signed (s != t) (.ofQuotient a.units b.units)

/-- The larger of two numbers; the first unless the second is strictly larger. -/
def maximum (x y : Binary64) : Binary64 := if x.lt y then y else x

end EntitySelection.Binary64
