import EntitySelection.Predicate

/-!
# Selections

Every entity is put to every predicate. An entity to which no predicate applies is *not
applicable*; any other is *selected* or *rejected*, as it passes all of the predicates or any of
them, whichever the mode asks for.

An entity goes by an id: the text of its id field, or its position after a `#` if it has none.
Two entities of one id end the selection.

A selection grows by one entity at a time: the id goes to the end of one of three lists, and the
result of the entity is put under its id.
-/

namespace EntitySelection

/-- Whether an entity must pass all predicates or any of them. -/
inductive MatchMode where
  | all
  | any
  deriving DecidableEq, Repr

namespace MatchMode

def name : MatchMode → String
  | all => "all"
  | any => "any"

def ofName? (s : String) : Option MatchMode :=
  if s = "all" then some all else if s = "any" then some any else none

/-- The mode of a name that should be one. -/
def named (name : String) : Except Failure MatchMode :=
  match ofName? name with
  | some m => .ok m
  | none => .error (.unknownMember name "MatchMode")

end MatchMode

/-- What became of one entity under one predicate. -/
structure Outcome where
  predicate : String
  description : String
  applicable : Bool
  passed : Bool
  deriving DecidableEq, Repr

/-- What became of one entity. -/
structure EntityResult where
  entityId : String
  selected : Bool
  outcomes : List Outcome
  deriving DecidableEq, Repr

/-- What became of the entities so far: the ids of each kind in order, and the results under
their ids. `mode` is the mode that is reported. -/
structure Selection where
  mode : MatchMode
  selectedIds : List String
  rejectedIds : List String
  notApplicableIds : List String
  results : List (String × EntityResult)
  deriving DecidableEq, Repr

namespace Selection

/-- The selection among no entities. -/
def start (mode : MatchMode) : Selection := ⟨mode, [], [], [], []⟩

/-! ## One entity -/

/-- The id of the entity at a position. -/
def entityId (idField : String) (position : Nat) (entity : Value) : String :=
  match entity.attribute? idField with
  | some v => if v.isNull then "#" ++ toString position else v.render
  | none => "#" ++ toString position

/-- Whether an entity passes a predicate, asked only where the predicate applies. -/
def passedWhere (applicable : Bool) (p : Predicate) (entity : Value) : Except Failure Bool :=
  if applicable then p.test entity else .ok false

/-- Puts an entity to a predicate. -/
def outcome (p : Predicate) (entity : Value) : Except Failure Outcome := do
  let applicable ← p.applicable entity
  let description ← p.describe
  let passed ← passedWhere applicable p entity
  pure ⟨p.name, description, applicable, passed⟩

def outcomes (ps : List Predicate) (entity : Value) : Except Failure (List Outcome) :=
  ps.mapM (outcome · entity)

/-- Whether any predicate applies. -/
def isApplicable (os : List Outcome) : Bool := os.any (·.applicable)

/-- Whether outcomes pass as the mode asks. -/
def passes (mode : MatchMode) (os : List Outcome) : Bool :=
  match mode with
  | .all => os.all (·.passed)
  | .any => os.any (·.passed)

/-! ## All entities -/

/-- Enters the outcomes of an entity under its id. -/
def enter (s : Selection) (mode : MatchMode) (id : String) (os : List Outcome) : Selection :=
  if !isApplicable os then
    { s with
      notApplicableIds := s.notApplicableIds ++ [id]
      results := Named.put s.results id ⟨id, false, os⟩ }
  else if passes mode os then
    { s with
      selectedIds := s.selectedIds ++ [id]
      results := Named.put s.results id ⟨id, true, os⟩ }
  else
    { s with
      rejectedIds := s.rejectedIds ++ [id]
      results := Named.put s.results id ⟨id, false, os⟩ }

/-- Takes in the entity at a position. -/
def step (mode : MatchMode) (ps : List Predicate) (idField : String) (s : Selection)
    (position : Nat) (entity : Value) : Except Failure Selection := do
  let id := entityId idField position entity
  if (s.results.lookup id).isSome then .error (.duplicateId id position)
  else
    let os ← outcomes ps entity
    pure (s.enter mode id os)

/-- Takes in the entities from a position on. -/
def runFrom (mode : MatchMode) (ps : List Predicate) (idField : String) (s : Selection)
    (position : Nat) : List Value → Except Failure Selection
  | [] => .ok s
  | entity :: rest => do
    let t ← step mode ps idField s position entity
    runFrom mode ps idField t (position + 1) rest

/-- Selects among entities. -/
def run (mode : MatchMode) (ps : List Predicate) (idField : String) (entities : List Value) :
    Except Failure Selection :=
  runFrom mode ps idField (start mode) 0 entities

/-- The log message of a finished selection. -/
def finishedMessage (s : Selection) : String :=
  "Selected " ++ toString s.selectedIds.length ++ ", rejected " ++ toString s.rejectedIds.length ++
    ", not applicable " ++ toString s.notApplicableIds.length

end Selection

end EntitySelection
