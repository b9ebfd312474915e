import EntitySelection.Workshop.Update

/-!
# Sessions with a mod

A host assigns properties of a mod and asks for updates. An update calls a lookup, which answers
to a list of ids. What an action did is kept as an event: the mod before and after it, what it
answers, the lists of ids for which it called the lookup, and its log.

A session is one action after another. An action that fails does not end it.
-/

namespace EntitySelection.Workshop

/-- What the workshop answers to a list of ids. -/
abbrev Lookup := List Nat → Answer

/-- A computation that calls a lookup; its state are the lists of ids asked for so far. -/
abbrev Asking := StateM (List (List Nat))

/-- Calls a lookup. -/
def ask (lookup : Lookup) (ids : List Nat) : Asking Answer := do
  modify (· ++ [ids])
  return lookup ids

/-- What a host does with a mod. -/
inductive Action where
  | assign (p : Property) (v : Value)
  | update (lookup : Lookup)

/-- What an action did. An assignment answers nothing. -/
structure Event where
  before : ModInfo
  after : ModInfo
  result : Except Failure (Option Bool)
  asked : List (List Nat)
  log : List (Level × String)

namespace ModInfo

/-- Asks for the item of a mod and updates the mod with the answer. -/
def updateFrom (m : ModInfo) (lookup : Lookup) : Asking Update := do
  let answer ← ask lookup m.asked
  return m.update answer

def perform (m : ModInfo) : Action → Event
  | .assign p v => match m.assign p v with
    | .ok after => ⟨m, after, .ok none, [], []⟩
    | .error f => ⟨m, m, .error f, [], []⟩
  | .update lookup =>
    let (u, asked) := (m.updateFrom lookup).run []
    ⟨m, u.after, u.result.map some, asked, u.log⟩

/-- The events of a session. -/
def session (m : ModInfo) : List Action → List Event
  | [] => []
  | a :: rest => m.perform a :: (m.perform a).after.session rest

end ModInfo

end EntitySelection.Workshop
