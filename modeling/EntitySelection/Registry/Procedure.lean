import EntitySelection.Registry

/-!
# Registration table by table

Here a registry is a state, and its tables change one after the other while a comparator is
registered: the tokens are checked, then bound, then the other tables follow. A procedure that
fails leaves the tables as they are at that point.

Main definition: `Procedure.register`, which leaves the same registry as `Registry.register`.
-/

namespace EntitySelection.Registry

/-- A computation that changes a registry and may fail midway. -/
abbrev Procedure := EStateM Failure Registry

namespace Procedure

/-- Fails at a token that cannot be bound to a comparator. -/
def checkToken (c : Comparator) (t : String) : Procedure Unit := do
  match (← get).refusal? c t with
  | some f => throw f
  | none => return ()

def bindToken (c : Comparator) (t : String) : Procedure Unit :=
  modify fun r => { r with bindings := Named.put r.bindings t c }

/-- Registers a comparator. -/
def register (q : Registration) : Procedure Unit := do
  match q.tokens with
  | [] => throw (.noTokens q.comparator)
  | first :: _ =>
    q.tokens.forM (checkToken q.comparator)
    q.tokens.forM (bindToken q.comparator)
    modify fun r => { r with canonicals := Named.putNew r.canonicals q.comparator first }
    modify fun r => { r with comparisons := Named.put r.comparisons q.comparator q.comparison }
    modify fun r => { r with descriptions := redescribe r.descriptions q.comparator q.description }

end Procedure

end EntitySelection.Registry
