import EntitySelection.PredicateSet

/-!
# Selections by a given mode

The mode of a selection may be given as data. It is *recorded* as a checked mode, but *applied*
as it is given: only the mode "all" and its name ask that all predicates pass.
-/

namespace EntitySelection

open Schema

/-- A mode, or data for it. -/
inductive ModeChoice where
  | mode (m : MatchMode)
  | data (v : Value)

namespace ModeChoice

/-- The mode that the result reports. -/
def recorded : ModeChoice → Checked MatchMode
  | mode m => .ok m
  | data v => (MatchMode.check v).under (.field "match")

/-- The mode by which entities are selected. -/
def applied : ModeChoice → MatchMode
  | mode m => m
  | data v => if v.isText MatchMode.all.name then .all else .any

end ModeChoice

namespace Selection

def modelName : String := "SelectionResult"

/-- Selects among entities by a given mode. -/
def runChoice (choice : ModeChoice) (ps : List Predicate) (idField : String)
    (entities : List Value) : Except Failure Selection :=
  match choice.recorded.toExcept modelName with
  | .error i => .error (.invalid i)
  | .ok recorded =>
    runFrom choice.applied ps idField (start recorded) 0 entities

end Selection

end EntitySelection
