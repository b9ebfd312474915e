import EntitySelection.Binary64.Arithmetic
import EntitySelection.Comparator

/-!
# The six comparisons

Order is the order of the numbers themselves. Equality is approximate: two numbers are equal
when their difference stays below a tolerance, a ten-thousandth of the size of their sum but at
least `1e-7`. A difference of exactly the tolerance is neither equal nor different.
-/

namespace EntitySelection

/-- A test of a candidate, given first, against an operand. -/
abbrev Comparison := Binary64 → Binary64 → Bool

namespace Comparison

/-- The least tolerance, `1e-7`. -/
def toleranceFloor : Binary64 := .signed false (.ofDecimal 1 (-7))

/-- The part of the sum that is tolerated is one in `1e4`. -/
def toleranceScale : Binary64 := .ofInt 10000

/-- The tolerance of equality between two numbers. -/
def tolerance (candidate against : Binary64) : Binary64 :=
  .maximum toleranceFloor ((candidate.add against).abs.div toleranceScale)

/-- The distance of two numbers. -/
def distance (candidate against : Binary64) : Binary64 := (candidate.sub against).abs

def equal : Comparison := fun c a => (distance c a).lt (tolerance c a)

def notEqual : Comparison := fun c a => (tolerance c a).lt (distance c a)

def greater : Comparison := fun c a => a.lt c

def lesser : Comparison := fun c a => c.lt a

def greaterOrEqual : Comparison := fun c a => a.le c

def lessOrEqual : Comparison := fun c a => c.le a

end Comparison

/-- The comparison that a comparator stands for. -/
def Comparator.comparison : Comparator → Comparison
  | equal => .equal
  | notEqual => .notEqual
  | greater => .greater
  | lesser => .lesser
  | greaterOrEqual => .greaterOrEqual
  | lessOrEqual => .lessOrEqual

end EntitySelection
