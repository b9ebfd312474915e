import EntitySelection.Csv
import EntitySelection.Failure
import EntitySelection.Json.Reader
import EntitySelection.Text.Blank
import EntitySelection.Text.Line
import EntitySelection.Text.Lowercase

/-!
# Datasets

A dataset is a file of entities in one of three formats: a JSON list, perhaps in a map; a JSON
value on each line that is not blank; or a table. The format shows in the suffix of its path, in
any case.
-/

namespace EntitySelection.Dataset

inductive Format where
  | json
  | jsonLines
  | table
  deriving DecidableEq, Repr

/-- The format of a suffix. -/
def Format.ofSuffix? (suffix : String) : Option Format :=
  let s := Text.lowercase suffix
  if s = ".json" then some json
  else if s = ".ndjson" then some jsonLines
  else if s = ".csv" then some table
  else none

/-- The keys under which a map may hold its entities, in the order in which they are tried. -/
def listKeys : List String := ["items", "entities", "records"]

def asList? : Value → Option (List Value)
  | .list vs => some vs
  | _ => none

/-- The entities in a JSON value. -/
def entities : Value → Except Failure (List Value)
  | .list vs => .ok vs
  | .map es =>
    match listKeys.findSome? fun k => (Value.entry? es k).bind asList? with
    | some vs => .ok vs
    | none => .error .noEntityList
  | _ => .error .notList

def readJson (text : String) : Except Failure Value := (Json.read text).mapError .json

/-- Reads a JSON value from each line that is not blank, up to a fault. -/
def readLines (lines : List String) (fault : Option Text.Utf8.Fault) :
    Except Failure (List Value) := do
  let vs ← (lines.filter (!Text.isBlankText ·)).mapM readJson
  match fault with
  | some f => .error (.encoding f)
  | none => .ok vs

/-- Reads the rows of a table, up to a fault. -/
def readTable (lines : List String) (fault : Option Text.Utf8.Fault) :
    Except Failure (List Value) :=
  match Csv.records lines, fault with
  | none, _ => .error (.fieldTooLong Csv.fieldLimit)
  | some _, some f => .error (.encoding f)
  | some records, none => .ok (Csv.rows records)

/-- Reads the entities of a file. -/
def read (format : Format) (bytes : List UInt8) : Except Failure (List Value) :=
  match format with
  | .json => do
    let text ← (Text.readAll bytes).mapError .encoding
    entities (← readJson text)
  | .jsonLines => let (lines, fault) := Text.readLines bytes; readLines lines fault
  | .table => let (lines, fault) := Text.readLines bytes; readTable lines fault

/-- Loads the entities at a path. -/
def load (files : Files) (path : String) : Except Failure (List Value) :=
  let path := tidyPath path
  if !files.isThere path then .error (.noDataset path)
  else match Format.ofSuffix? (pathSuffix path) with
    | none => .error .unknownFormat
    | some format => do
      let bytes ← (files.read path).mapError (.file path)
      read format bytes

end EntitySelection.Dataset
