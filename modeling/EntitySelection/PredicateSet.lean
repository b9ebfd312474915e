import EntitySelection.Query
import EntitySelection.Schema.Scalar
import EntitySelection.Selection
import EntitySelection.Yaml.Document

/-!
# Predicate sets

A predicate set is a match mode and a list of configured predicates. Each names an attribute and
gives a query for it. A set is accepted when it has a predicate, no name or attribute is blank,
every query can be read, and no two predicates have the same name; names and attributes lose the
blanks around them.

An accepted set is turned into predicates by finding the extractor of each attribute and reading
each query again.
-/

namespace EntitySelection

open Schema

/-- A configured predicate. -/
structure PredicateConfig where
  name : String
  attr : String
  query : String
  description : Option String
  deriving DecidableEq, Repr

/-- How entities are to be selected. -/
structure PredicateSet where
  mode : MatchMode
  predicates : List PredicateConfig
  deriving DecidableEq, Repr

/-- A match mode by its name. -/
def MatchMode.check : Check MatchMode := Check.choice ["all", "any"] MatchMode.ofName?

namespace PredicateConfig

/-- A text that is not blank, without the blanks around it. -/
def notBlank : Check String := fun v => (Check.text v).andThen fun s =>
  if Text.strip s = "" then .problem (.refused "must not be blank") else .ok (Text.strip s)

/-- A text that is a query. -/
def queryText (r : Registry) : Check String := fun v => (Check.text v).andThen fun s =>
  match Query.parse r s with
  | .ok _ => .ok s
  | .error m => .problem (.refused m.message)

def check (r : Registry) : Check PredicateConfig := Check.record "PredicateConfig" fun es =>
  mk <$> Check.required es "name" notBlank
    <*> Check.required es "attribute" notBlank
    <*> Check.required es "query" (queryText r)
    <*> Check.optional es "description" none (Check.nullable Check.text)

def toValue (c : PredicateConfig) : Value := .map [
  (.text "name", .text c.name),
  (.text "attribute", .text c.attr),
  (.text "query", .text c.query),
  (.text "description", match c.description with
    | some d => .text d
    | none => .null)]

/-- The predicate of a configuration. -/
def build (k : Catalogue) (r : Registry) (c : PredicateConfig) : Except Failure Predicate := do
  let extractor ← k.resolve c.attr
  match Query.parse r c.query with
  | .ok q =>
    pure (Predicate.numeric r q.draft extractor (Predicate.nameOr Predicate.numericKind c.name))
  | .error m => .error (.malformed m)

end PredicateConfig

namespace PredicateSet

/-- The first text of a list that repeats an earlier one; `seen` are the texts before it. -/
def firstRepeated? (seen : List String) : List String → Option String
  | [] => none
  | s :: rest => if seen.contains s then some s else firstRepeated? (s :: seen) rest

/-- A list with a predicate and without a repeated name. -/
def distinct (cs : List PredicateConfig) : Checked (List PredicateConfig) :=
  if cs.isEmpty then .problem (.refused "PredicateSet must contain at least one predicate")
  else match firstRepeated? [] (cs.map (·.name)) with
    | some name => .problem (.refused ("Duplicate predicate name '" ++ name ++ "'"))
    | none => .ok cs

def checkPredicates (r : Registry) : Check (List PredicateConfig) := fun v =>
  (Check.list (PredicateConfig.check r) v).andThen distinct

def modelName : String := "PredicateSet"

def check (r : Registry) : Check PredicateSet := Check.record modelName fun es =>
  mk <$> Check.optional es "match" MatchMode.all MatchMode.check
    <*> Check.required es "predicates" (checkPredicates r)

def toValue (s : PredicateSet) : Value := .map [
  (.text "match", .text s.mode.name),
  (.text "predicates", .list (s.predicates.map (·.toValue)))]

/-- Checks data as a predicate set. -/
def ofValue (r : Registry) (v : Value) : Except Failure PredicateSet :=
  match (check r v).toExcept modelName with
  | .ok s => .ok s
  | .error i => .error (.invalid i)

/-- The data of a predicate file. -/
def fileData (text : String) : Except Failure Value :=
  match Yaml.read text with
  | .error fault => .error (.yaml fault)
  | .ok (.map es) =>
    if (Value.entry? es "predicates").isSome then .ok (.map es) else .error .noPredicates
  | .ok _ => .error .noPredicates

/-- Reads a predicate file. -/
def ofYaml (r : Registry) (text : String) : Except Failure PredicateSet :=
  (fileData text).bind (ofValue r)

/-- The predicates of a set. -/
def build (k : Catalogue) (r : Registry) (s : PredicateSet) : Except Failure (List Predicate) :=
  s.predicates.mapM (·.build k r)

/-- Selects among entities with a predicate set. -/
def select (k : Catalogue) (r : Registry) (idField : String) (s : PredicateSet)
    (entities : List Value) : Except Failure Selection := do
  let ps ← s.build k r
  Selection.run s.mode ps idField entities

/-! ## Log -/

/-- The log message of a query, if it can be read. -/
def queryMessage? (r : Registry) (raw : String) : Option String :=
  (Query.parse r raw).toOption.map (Query.parsedMessage raw)

/-- The query text of an item of a predicate list. -/
def queryOf? : Value → Option String
  | .map es => match (Value.entry? es "query").map Check.text with
    | some (.ok s) => some s
    | _ => none
  | _ => none

/-- The log messages of checking data: one for each query that can be read. -/
def checkMessages (r : Registry) : Value → List String
  | .map es => match Value.entry? es "predicates" with
    | some (.list vs) => vs.filterMap fun v => (queryOf? v).bind (queryMessage? r)
    | _ => []
  | _ => []

/-- The log messages of building predicates: one for each query read, up to a failure. -/
def buildMessages (k : Catalogue) (r : Registry) : List PredicateConfig → List String
  | [] => []
  | c :: cs =>
    match k.resolve c.attr, queryMessage? r c.query with
    | .ok _, some message => message :: buildMessages k r cs
    | _, _ => []

end PredicateSet

end EntitySelection
