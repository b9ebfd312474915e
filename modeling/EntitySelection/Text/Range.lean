/-!
# Ranges of code points

Properties of characters are given as lists of closed ranges of code points.
-/

namespace EntitySelection.Text

/-- A closed range of code points. -/
abbrev Range := Nat × Nat

def Range.contains (r : Range) (n : Nat) : Bool := r.1 ≤ n && n ≤ r.2

def inRanges (rs : List Range) (c : Char) : Bool := rs.any (·.contains c.toNat)

end EntitySelection.Text
