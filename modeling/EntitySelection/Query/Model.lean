import EntitySelection.Query
import EntitySelection.Schema.Scalar

/-!
# Queries as data

A query is checked from a map of its two fields. Its fields cannot be assigned afterwards.
-/

namespace EntitySelection

open Schema

namespace Query

def modelName : String := "ComparisonQuery"

def check : Check Query := Check.record modelName fun es =>
  mk <$> Check.required es "comparator"
      (Check.choice (Comparator.all.map (·.name)) Comparator.ofName?)
    <*> Check.required es "against" Check.number

/-- The fields of a draft. -/
def Draft.toValue (d : Draft) : Value :=
  .map [(.text "comparator", operatorValue d.operator), (.text "against", .float d.against)]

/-- The fields of a query. -/
def toValue (q : Query) : Value := q.draft.toValue

/-- Names that belong to a host and not to the model. -/
def isHostName (name : String) : Bool := name.toList.head? == some '_'

/-- Assigns a field of a query: refused, unless the name belongs to the host. -/
def assign (name : String) : Except Invalid Unit :=
  if isHostName name then .ok () else .error ⟨modelName, [⟨[.field name], .frozen⟩]⟩

end Query

end EntitySelection
