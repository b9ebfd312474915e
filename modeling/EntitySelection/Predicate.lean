import EntitySelection.Extractor
import EntitySelection.Query

/-!
# Predicates

A predicate can be asked whether it applies to an entity, and whether the entity passes it; each
question may fail. A *numeric* predicate compares an attribute with the operand of a query: it
applies where its extractor gives a value. A *presence* predicate always applies, and passes
where its extractor gives a value.
-/

namespace EntitySelection

/-- A named test of entities. -/
structure Predicate where
  name : String
  describe : Except Failure String
  applicable : Value → Except Failure Bool
  test : Value → Except Failure Bool

namespace Predicate

/-- The name given to a predicate, or that of its kind if it is missing or empty. -/
def nameOr (kind : String) (name : Option String) : String :=
  match name with
  | some n => if n = "" then kind else n
  | none => kind

/-- The name of a numeric predicate that is given none. -/
def numericKind : String := "NumericComparePredicate"

/-- The name and the description of a predicate. -/
def text (p : Predicate) : Except Failure String := p.describe.map (p.name ++ " " ++ ·)

/-- The extractor of a predicate that may lack one. -/
def extractorOr (kind : String) (x : Option Extractor) : Extractor :=
  x.getD fun _ => .error (.noExtractor kind)

/-- Compares an attribute with the operand of a query. -/
def numeric (r : Registry) (q : Query.Draft) (x : Extractor) (name : String) : Predicate where
  name := name
  describe := q.describe r
  applicable entity := (x entity).map (!·.isNull)
  test entity := (x entity).bind fun v => if v.isNull then .ok false else q.evaluate r v

/-- Passes where an extractor gives a value. -/
def presence (x : Extractor) (name : String) : Predicate where
  name := name
  describe := .ok "present"
  applicable _ := .ok true
  test entity := (x entity).map (!·.isNull)

end Predicate

end EntitySelection
