import EntitySelection.Command.Help
import EntitySelection.Dataset
import EntitySelection.Json.Writer
import EntitySelection.Selection.Report

/-!
# Running the command

The command explains a single query, or selects entities of a dataset by a predicate file and
writes the report. A run is a function of the arguments and of what the paths lead to: it tells
what is printed, what is written and how it ends.
-/

namespace EntitySelection.Command

/-- How a run ends. -/
inductive Ending where
  | finished
  | exited (code : Nat)
  | failed (f : Failure)

/-- What a run does. -/
structure Run where
  stdout : String := ""
  stderr : String := ""
  /-- The path and the text of the file that is written. -/
  written : Option (String × String) := none
  ending : Ending

/-- Messages as they are logged: only at the level of debugging, each with its source. -/
def logged (level : LogLevel) (source : String) (messages : List String) : String :=
  if level = .debug then
    "".intercalate (messages.map fun m => "DEBUG entityquery." ++ source ++ ": " ++ m ++ "\n")
  else ""

/-! ## Explaining -/

/-- A query as the command explains it. -/
def explanation (q : Query) (canonical : String) : String :=
  Json.line (.map [
    (.text "comparator", .text q.comparator.name),
    (.text "against", .float q.against),
    (.text "canonical", .text canonical)])

def explain (level : LogLevel) (raw : String) : Run :=
  match Query.parse .default raw with
  | .error m => { stderr := m.message ++ "\n", ending := .exited 2 }
  | .ok q =>
    let log := logged level "query" [Query.parsedMessage raw q]
    match q.describe .default with
    | .ok canonical =>
      { stdout := explanation q canonical ++ "\n", stderr := log, ending := .finished }
    | .error f => { stderr := log, ending := .failed f }

/-! ## Selecting -/

/-- The text of a predicate file. -/
def predicateText (files : Files) (path : String) : Except Failure String := do
  let bytes ← (files.read path).mapError (.file path)
  (Text.readAll bytes).mapError .encoding

/-- Prints a report or writes it to a file. -/
def deliver (files : Files) (output : String) (log report : String) : Run :=
  if output = "-" then { stdout := report ++ "\n", stderr := log, ending := .finished }
  else
    let path := tidyPath output
    match files.write path with
    | .ok () => { stderr := log, written := some (path, report), ending := .finished }
    | .error fault => { stderr := log, ending := .failed (.file path fault) }

/-- Selects among entities and delivers the report. -/
def selectWith (files : Files) (a : Arguments) (log : String) (entities : List Value)
    (set : PredicateSet) : Run :=
  let built := PredicateSet.buildMessages .empty .default set.predicates
  let log := log ++ logged a.logLevel "query" built
  match set.select .empty .default a.idField entities with
  | .error f => { stderr := log, ending := .failed f }
  | .ok s =>
    let log := log ++ logged a.logLevel "engine" [s.finishedMessage]
    deliver files a.output log (Json.page (Report.ofSelection s).toValue)

/-- Selects by a dataset and a predicate file. -/
def select (files : Files) (a : Arguments) (dataset predicates : String) : Run :=
  let loaded : Except Failure (List Value × Value) := do
    let entities ← Dataset.load files dataset
    let data ← PredicateSet.fileData (← predicateText files predicates)
    .ok (entities, data)
  match loaded with
  | .error f => { ending := .failed f }
  | .ok (entities, data) =>
    let log := logged a.logLevel "query" (PredicateSet.checkMessages .default data)
    match PredicateSet.ofValue .default data with
    | .error f => { stderr := log, ending := .failed f }
    | .ok set => selectWith files a log entities set

/-! ## The command -/

def misused (m : Misuse) : Run := { stderr := m.report, ending := .exited 2 }

/-- Runs the command. -/
def run (files : Files) (argv : List String) : Run :=
  match Arguments.read argv with
  | .error .help => { stdout := help, ending := .exited 0 }
  | .error (.misuse m) => misused m
  | .ok a =>
    match a.explain, a.dataset, a.predicates with
    | some raw, _, _ => explain a.logLevel raw
    | none, some dataset, some predicates =>
      if dataset = "" || predicates = "" then misused .noFiles
      else select files a dataset predicates
    | none, _, _ => misused .noFiles

end EntitySelection.Command
