import EntitySelection.Command.Run
import EntitySelection.Proofs.Success

/-!
# What a run of the command comes to

A run that selects does three things: it finds out what is selected, it logs, and it delivers the
report. What is selected (`chosen`) depends on the dataset, the predicate file and the id field
alone, and the rest of the run depends on nothing else than the result (`conclude`).

`run_selecting` says this of every command line that asks for a selection. What the other command
lines lead to is said by `run_explaining`, `run_help` and `run_misused`.
-/

namespace EntitySelection.Command

variable {files : Files} {argv argv' : List String} {a a' : Arguments}

/-! ## What is selected -/

/-- What the predicate file of a path holds. -/
def predicateSet (files : Files) (predicates : String) : Except Failure PredicateSet := do
  let text ← predicateText files predicates
  PredicateSet.ofYaml .default text

/-- What is selected from the entities of a dataset by the set of a predicate file. -/
def chosen (files : Files) (dataset predicates idField : String) : Except Failure Selection := do
  let entities ← Dataset.load files dataset
  let set ← predicateSet files predicates
  set.select .empty .default idField entities

/-- How a run ends when it is known what is selected, or why nothing is. -/
def conclude (files : Files) (output log : String) : Except Failure Selection → Run
  | .error f => { stderr := log, ending := .failed f }
  | .ok s => deliver files output log (Json.page (Report.ofSelection s).toValue)

/-- The dataset and the predicate file, if both are named. -/
def Arguments.files? (a : Arguments) : Option (String × String) :=
  match a.dataset, a.predicates with
  | some dataset, some predicates =>
    if dataset = "" || predicates = "" then none else some (dataset, predicates)
  | _, _ => none

theorem selectWith_conclude (files : Files) (a : Arguments) (log : String) (entities : List Value)
    (set : PredicateSet) : ∃ all, selectWith files a log entities set =
      conclude files a.output all (set.select .empty .default a.idField entities) := by
  unfold selectWith
  cases set.select .empty .default a.idField entities with
  | error f => exact ⟨_, rfl⟩
  | ok s =>
    simp only [conclude]
    exact ⟨_, rfl⟩

/-- A run that selects delivers what is selected, or ends with the reason why nothing is. -/
theorem select_conclude (files : Files) (a : Arguments) (dataset predicates : String) :
    ∃ log, select files a dataset predicates =
      conclude files a.output log (chosen files dataset predicates a.idField) := by
  unfold select chosen predicateSet PredicateSet.ofYaml
  cases Dataset.load files dataset with
  | error f => exact ⟨"", rfl⟩
  | ok entities =>
    cases predicateText files predicates with
    | error f => exact ⟨"", rfl⟩
    | ok text =>
      simp only [bind, Except.bind]
      cases PredicateSet.fileData text with
      | error f => exact ⟨"", rfl⟩
      | ok data =>
        cases hset : PredicateSet.ofValue .default data with
        | error f =>
          simp only [hset]
          exact ⟨_, rfl⟩
        | ok set =>
          simp only [hset]
          exact selectWith_conclude files a _ entities set

/-! ## Command lines -/

theorem run_eq_select (hread : Arguments.read argv = .ok a) (hexplain : a.explain = none) :
    run files argv = match a.files? with
      | none => misused .noFiles
      | some (dataset, predicates) => select files a dataset predicates := by
  obtain ⟨dataset, predicates, explain, idField, output, logLevel⟩ := a
  obtain rfl : explain = none := hexplain
  rw [run, hread]
  cases dataset with
  | none => rfl
  | some dataset =>
    cases predicates with
    | none => rfl
    | some predicates =>
      by_cases hempty : (dataset = "" || predicates = "") = true
      · simp only [Arguments.files?, hempty, if_true]
      · simp only [Arguments.files?, hempty, if_false, Bool.false_eq_true]

/-- A run that asks for a selection misses a file, or concludes what is selected. -/
theorem run_selecting (files : Files) (hread : Arguments.read argv = .ok a)
    (hexplain : a.explain = none) :
    (a.files? = none ∧ run files argv = misused .noFiles) ∨
      ∃ dataset predicates log, a.files? = some (dataset, predicates) ∧ run files argv =
        conclude files a.output log (chosen files dataset predicates a.idField) := by
  rw [run_eq_select hread hexplain]
  cases a.files? with
  | none => exact .inl ⟨rfl, rfl⟩
  | some p =>
    obtain ⟨log, hlog⟩ := select_conclude files a p.1 p.2
    exact .inr ⟨p.1, p.2, log, rfl, hlog⟩

/-- Two runs that ask for the same selection miss a file both, or conclude the same. -/
theorem run_selecting_alike (files : Files) (hread : Arguments.read argv = .ok a)
    (hread' : Arguments.read argv' = .ok a') (hexplain : a.explain = none)
    (hexplain' : a'.explain = none) (hfiles : a'.files? = a.files?)
    (hidField : a'.idField = a.idField) :
    (run files argv = misused .noFiles ∧ run files argv' = misused .noFiles) ∨
      ∃ outcome log log', run files argv = conclude files a.output log outcome ∧
        run files argv' = conclude files a'.output log' outcome := by
  rcases run_selecting files hread hexplain with ⟨hnone, hrun⟩ | ⟨_, _, log, hsome, hrun⟩
  · rcases run_selecting files hread' hexplain' with ⟨-, hrun'⟩ | ⟨_, _, _, hsome', -⟩
    · exact .inl ⟨hrun, hrun'⟩
    · cases hnone.symm.trans (hfiles.symm.trans hsome')
  · rcases run_selecting files hread' hexplain' with ⟨hnone', -⟩ | ⟨_, _, log', hsome', hrun'⟩
    · cases hnone'.symm.trans (hfiles.trans hsome)
    · cases hsome.symm.trans (hfiles.symm.trans hsome')
      rw [hidField] at hrun'
      exact .inr ⟨_, log, log', hrun, hrun'⟩

theorem run_explaining (hread : Arguments.read argv = .ok a) {raw : String}
    (hexplain : a.explain = some raw) : run files argv = explain a.logLevel raw := by
  unfold run
  rw [hread]
  simp only [hexplain]

theorem run_help (hread : Arguments.read argv = .error .help) :
    run files argv = { stdout := help, ending := .exited 0 } := by
  rw [run, hread]

theorem run_misused {m : Misuse} (hread : Arguments.read argv = .error (.misuse m)) :
    run files argv = misused m := by
  rw [run, hread]

end EntitySelection.Command
