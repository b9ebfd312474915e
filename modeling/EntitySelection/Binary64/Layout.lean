import EntitySelection.Binary64.Shortest

/-!
# Numbers as text

A number is written by its shortest decimal. A `Layout` says which exponents are written with
the point in place and which in scientific notation, and how the specials are spelled.
-/

namespace EntitySelection.Binary64

/-- How numbers are laid out. -/
structure Layout where
  /-- Decimal exponents from here on have the point in place. -/
  leastPositional : Int
  /-- Decimal exponents from here on are scientific. -/
  leastScientific : Int
  /-- The least number of digits of an exponent. -/
  exponentDigits : Nat
  infinity : String
  negativeInfinity : String
  nan : String

/-- The plain layout: the point is in place from `0.0001` to below `10 ^ 16`. -/
def Layout.plain : Layout := ⟨-4, 16, 2, "inf", "-inf", "nan"⟩

/-- Digits with a point after the first `point` of them; at least one digit on either side. -/
def positional (ds : List Char) (point : Int) : List Char :=
  if point ≤ 0 then '0' :: '.' :: (List.replicate point.natAbs '0' ++ ds)
  else
    let k := point.toNat
    if ds.length ≤ k then ds ++ List.replicate (k - ds.length) '0' ++ ['.', '0']
    else ds.take k ++ '.' :: ds.drop k

/-- Digits with a point after the first, and an exponent. -/
def scientific (width : Nat) (ds : List Char) (exponent : Int) : List Char :=
  let mantissa := match ds with
    | [] => []
    | [d] => [d]
    | d :: rest => d :: '.' :: rest
  let sign := if exponent < 0 then '-' else '+'
  let es := Nat.toDigits 10 exponent.natAbs
  mantissa ++ 'e' :: sign :: (List.replicate (width - es.length) '0' ++ es)

/-- A decimal `d · 10 ^ e`. -/
def Layout.decimal (l : Layout) (d : Nat) (e : Int) : List Char :=
  let ds := Nat.toDigits 10 d
  let point := ds.length + e
  if l.leastPositional ≤ point - 1 && point - 1 < l.leastScientific then positional ds point
  else scientific l.exponentDigits ds (point - 1)

/-- A number as text. -/
def layoutChars (l : Layout) : Binary64 → List Char
  | nan => l.nan.toList
  | signed s m =>
    if m.isInfinite then (if s then l.negativeInfinity else l.infinity).toList
    else
      let digits := if m.index = 0 then l.decimal 0 0 else
        let (d, e) := m.shortest
        l.decimal d e
      if s then '-' :: digits else digits

/-- A number in the plain layout. -/
def text (x : Binary64) : String := String.ofList (layoutChars .plain x)

end EntitySelection.Binary64
