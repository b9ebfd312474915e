import EntitySelection.Registry
import EntitySelection.Value.Key

/-!
# Queries

A query is a comparator and an operand. It is written as an optional token of a registry
followed by a numeral, with blanks allowed before, between and after them. The longest token
that the text starts with counts; without a token the comparator is equality.
-/

namespace EntitySelection

/-- A comparator and the operand that candidates are compared with. -/
structure Query where
  comparator : Comparator
  against : Binary64
  deriving DecidableEq

namespace Registry

/-- The longest token of at most `n` characters at the start of a text: its comparator and its
length. -/
def longestToken? (r : Registry) (cs : List Char) : Nat → Option (Comparator × Nat)
  | 0 => none
  | n + 1 => match r.lookup (String.ofList (cs.take (n + 1))) with
    | some c => some (c, n + 1)
    | none => longestToken? r cs n

/-- Splits a text without leading blanks into its comparator and the rest. -/
def splitToken (r : Registry) (cs : List Char) : Comparator × List Char :=
  match r.longestToken? cs (min r.maxTokenLength cs.length) with
  | some (c, n) => (c, cs.drop n)
  | none => (.equal, cs)

end Registry

namespace Query

/-- Reads the operand of a query. -/
def operand (cs : List Char) : Except Malformation Binary64 :=
  if cs.contains '_' then .error .digitSeparators
  else match Numeral.read? (String.ofList cs) with
    | some n => .ok n.toBinary64
    | none => .error (.notNumber (Text.strip (String.ofList cs)))

/-- Reads a query. -/
def parse (r : Registry) (raw : String) : Except Malformed Query :=
  let (c, rest) := r.splitToken (Text.trimStart Text.isBlank raw.toList)
  match operand rest with
  | .ok x => .ok ⟨c, x⟩
  | .error cause => .error ⟨raw, cause⟩

/-- The log message of a query that was read. -/
def parsedMessage (raw : String) (q : Query) : String :=
  "Parsed query " ++ Text.quoted raw ++ " as " ++ q.comparator.name ++ " " ++ q.against.text

/-- Equality of queries: the operands must have equal values. -/
def same (p q : Query) : Bool := p.comparator == q.comparator && p.against.sameValue q.against

/-- A query that may never have been checked. -/
structure Draft where
  operator : Operator
  against : Binary64

/-- A query as a draft. -/
def draft (q : Query) : Draft := ⟨.known q.comparator, q.against⟩

namespace Draft

/-- Writes a query: the canonical token, a space and the operand. -/
def describe (d : Draft) (r : Registry) : Except Failure String :=
  (r.canonical d.operator).map fun token => token ++ " " ++ d.against.text

/-- Tests a candidate, which may be any value that has a number. -/
def evaluate (d : Draft) (r : Registry) (candidate : Value) : Except Failure Bool :=
  match candidate.toNumber with
  | .ok x => r.evaluate d.operator x d.against
  | .error fault => .error (.number fault)

/-- The operator as a value: a comparator by its name. -/
def operatorValue : Operator → Value
  | .known c => .text c.name
  | .unchecked v => v

/-- Equality of drafts. -/
def same (d e : Draft) : Bool :=
  (operatorValue d.operator).same (operatorValue e.operator) && d.against.sameValue e.against

end Draft

/-- Writes a query. -/
def describe (q : Query) (r : Registry) : Except Failure String := q.draft.describe r

/-- Tests a candidate. -/
def evaluate (q : Query) (r : Registry) (candidate : Value) : Except Failure Bool :=
  q.draft.evaluate r candidate

end Query

end EntitySelection
