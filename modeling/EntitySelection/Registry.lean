import EntitySelection.Comparison
import EntitySelection.Failure
import EntitySelection.Named
import EntitySelection.Text.Blank

/-!
# Registries of comparators

A registry binds tokens to comparators, and gives each comparator that has tokens a canonical
token, a comparison and perhaps a description. Each of the four is a table of its own.

A registration names a comparator, its tokens, a comparison and perhaps a description. It binds
all its tokens or, when one of them cannot be bound, changes nothing. The first token that a
comparator ever gets is its canonical token; the comparison is that of its last registration,
and the description that of the last one with a description that is not empty.
-/

namespace EntitySelection

/-- The comparator of a name that should be one. -/
def Comparator.named (name : String) : Except Failure Comparator :=
  match ofName? name with
  | some c => .ok c
  | none => .error (.unknownMember name "Comparator")

/-- The four tables, each in the order in which its keys came. -/
structure Registry where
  bindings : List (String × Comparator)
  canonicals : List (Comparator × String)
  comparisons : List (Comparator × Comparison)
  descriptions : List (Comparator × String)

/-- A request to register a comparator. -/
structure Registration where
  comparator : Comparator
  tokens : List String
  comparison : Comparison
  description : Option String := none

namespace Registry

def empty : Registry := ⟨[], [], [], []⟩

/-- The comparator that a token is bound to. -/
def lookup (r : Registry) (token : String) : Option Comparator := r.bindings.lookup token

/-- The canonical token of a comparator. -/
def canonicalOf? (r : Registry) (c : Comparator) : Option String := r.canonicals.lookup c

/-- The comparison of a comparator. -/
def comparisonOf? (r : Registry) (c : Comparator) : Option Comparison := r.comparisons.lookup c

/-- The description of a comparator. -/
def descriptionOf? (r : Registry) (c : Comparator) : Option String := r.descriptions.lookup c

/-- The comparators with a canonical token, in the order of their first registration. -/
def comparators (r : Registry) : List Comparator := Named.names r.canonicals

/-- The bound tokens in alphabetical order. -/
def tokens (r : Registry) : List String := sortedNames (Named.names r.bindings)

/-- The length of the longest token. -/
def maxTokenLength (r : Registry) : Nat :=
  (r.bindings.map (·.1.length)).foldl max 0

/-! ## Registration -/

/-- A token that can be bound: not empty, and without blanks at its ends. -/
def isToken (t : String) : Bool := t != "" && Text.strip t == t

/-- Why a token cannot be bound to a comparator. -/
def refusal? (r : Registry) (c : Comparator) (t : String) : Option Failure :=
  if !isToken t then some (.invalidToken t)
  else match r.lookup t with
    | some holder => if holder = c then none else some (.tokenTaken t holder c)
    | none => none

/-- Binds tokens to a comparator. -/
def bindTokens (bindings : List (String × Comparator)) (c : Comparator) (tokens : List String) :
    List (String × Comparator) :=
  tokens.foldl (fun bs t => Named.put bs t c) bindings

/-- The descriptions after a registration; one that is missing or empty changes nothing. -/
def redescribe (descriptions : List (Comparator × String)) (c : Comparator) :
    Option String → List (Comparator × String)
  | some d => if d = "" then descriptions else Named.put descriptions c d
  | none => descriptions

/-- Enters a registration whose first token is `first` into the tables. -/
def enter (r : Registry) (first : String) (q : Registration) : Registry where
  bindings := bindTokens r.bindings q.comparator q.tokens
  canonicals := Named.putNew r.canonicals q.comparator first
  comparisons := Named.put r.comparisons q.comparator q.comparison
  descriptions := redescribe r.descriptions q.comparator q.description

/-- Registers a comparator. -/
def register (r : Registry) (q : Registration) : Except Failure Registry :=
  match q.tokens with
  | [] => .error (.noTokens q.comparator)
  | first :: _ =>
    match q.tokens.findSome? (r.refusal? q.comparator) with
    | some f => .error f
    | none => .ok (r.enter first q)

/-! ## What a registry answers -/

/-- The canonical token of an operator. -/
def canonical (r : Registry) (op : Operator) : Except Failure String :=
  match op.notKey?, op.comparator?.bind r.canonicalOf? with
  | some v, _ => .error (.notKey v)
  | none, some token => .ok token
  | none, none => .error (.notRegistered op r.comparators)

/-- The description of an operator, if it has one. -/
def describe (r : Registry) (op : Operator) : Except Failure (Option String) :=
  match op.notKey? with
  | some v => .error (.notKey v)
  | none => .ok (op.comparator?.bind r.descriptionOf?)

/-- Compares a candidate with an operand. -/
def evaluate (r : Registry) (op : Operator) (candidate against : Binary64) :
    Except Failure Bool :=
  match op.comparator?.bind r.comparisonOf? with
  | some f => .ok (f candidate against)
  | none => .error (.noComparison op)

/-- The comparators without a comparison. -/
def missing (r : Registry) : List Comparator :=
  Comparator.all.filter fun c => (r.comparisonOf? c).isNone

/-- Succeeds when every comparator has a comparison. -/
def validate (r : Registry) : Except Failure Unit :=
  if r.missing = [] then .ok () else .error (.incomplete r.missing)

/-! ## Defaults -/

/-- The registrations of the default comparators. -/
def defaultRegistrations : List Registration := [
  ⟨.equal, ["=", "=="], .equal, some "Equal within a relative tolerance"⟩,
  ⟨.notEqual, ["!="], .notEqual, some "Outside the equality tolerance"⟩,
  ⟨.greater, [">"], .greater, some "Strictly greater than"⟩,
  ⟨.lesser, ["<"], .lesser, some "Strictly less than"⟩,
  ⟨.greaterOrEqual, [">=", "=>"], .greaterOrEqual, some "Greater than or equal"⟩,
  ⟨.lessOrEqual, ["<=", "=<"], .lessOrEqual, some "Less than or equal"⟩]

/-- Registers one after the other up to the first failure. Gives the registry so far and that
failure. -/
def registerAll (r : Registry) : List Registration → Registry × Option Failure
  | [] => (r, none)
  | q :: qs => match r.register q with
    | .ok s => registerAll s qs
    | .error f => (r, some f)

/-- Registers the default comparators. A failure leaves what was registered before it. -/
def loadDefaults (r : Registry) : Registry × Option Failure :=
  match r.registerAll defaultRegistrations with
  | (s, none) => match s.validate with
    | .ok () => (s, none)
    | .error f => (s, some f)
  | failed => failed

/-- The registry of the default comparators. -/
def default : Registry := (empty.loadDefaults).1

end Registry

end EntitySelection
