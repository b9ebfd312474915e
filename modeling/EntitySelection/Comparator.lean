/-!
# Comparators

The six relations that a query can ask for. Each has a `name`, used in data, and a `label`,
used in messages.
-/

namespace EntitySelection

/-- A relation between a candidate and an operand. -/
inductive Comparator where
  | equal
  | notEqual
  | greater
  | lesser
  | greaterOrEqual
  | lessOrEqual
  deriving DecidableEq, Repr

namespace Comparator

/-- All comparators, in the order in which they are listed in messages. -/
def all : List Comparator := [equal, notEqual, greater, lesser, greaterOrEqual, lessOrEqual]

theorem mem_all (c : Comparator) : c ∈ all := by cases c <;> simp [all]

def name : Comparator → String
  | equal => "equal"
  | notEqual => "not_equal"
  | greater => "greater"
  | lesser => "lesser"
  | greaterOrEqual => "greater_or_equal"
  | lessOrEqual => "less_or_equal"

def label : Comparator → String
  | equal => "Comparator.EQUAL"
  | notEqual => "Comparator.NOT_EQUAL"
  | greater => "Comparator.GREATER"
  | lesser => "Comparator.LESSER"
  | greaterOrEqual => "Comparator.GREATER_OR_EQUAL"
  | lessOrEqual => "Comparator.LESS_OR_EQUAL"

/-- The comparator of a name. -/
def ofName? (s : String) : Option Comparator := all.find? (·.name == s)

end Comparator

end EntitySelection
