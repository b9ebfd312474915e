import EntitySelection.Proofs.Command.Selecting
import EntitySelection.Proofs.Command.Spelling

/-!
# Failing runs leave nothing behind, and the output route changes nothing

**Theorem (`run_contained`).** Among any files, a run of the command that raises or exits with a
code other than zero prints nothing on standard output and writes no file. Two runs of the same
selection, one to a file that can be written and one to standard output, either fail alike or give
the same text, whatever they log; and two command lines that differ in the log level alone print and
write the same.

A run is what it concludes from what is selected (`run_selecting`). The route enters only where a
report is delivered, the log level only in the log, and neither in what is selected.
-/

namespace EntitySelection.Command

variable {files : Files} {argv argv' : List String} {a : Arguments} {level : LogLevel}

/-! ## Runs that fail -/

/-- Whether a run raises, or exits with a code that is not zero. -/
def Ending.Fails : Ending → Prop
  | finished => False
  | exited code => code ≠ 0
  | failed _ => True

instance (e : Ending) : Decidable e.Fails :=
  match e with
  | .finished => inferInstanceAs (Decidable False)
  | .exited code => inferInstanceAs (Decidable (code ≠ 0))
  | .failed _ => inferInstanceAs (Decidable True)

/-- Whether a run prints nothing and writes nothing. -/
def Run.Silent (r : Run) : Prop := r.stdout = "" ∧ r.written = none

theorem misused_silent (m : Misuse) : (misused m).Silent := ⟨rfl, rfl⟩

theorem explain_silent (level : LogLevel) (raw : String) :
    (explain level raw).ending = .finished ∨ (explain level raw).Silent := by
  unfold explain
  split
  · exact .inr ⟨rfl, rfl⟩
  · next q _ =>
    cases q.describe .default with
    | error f => exact .inr ⟨rfl, rfl⟩
    | ok canonical => exact .inl rfl

theorem deliver_printed (files : Files) (log report : String) :
    deliver files "-" log report =
      { stdout := report ++ "\n", stderr := log, ending := .finished } := rfl

theorem deliver_written {output : String} (houtput : output ≠ "-")
    (hwrite : files.write (tidyPath output) = .ok ()) (log report : String) :
    deliver files output log report =
      { stderr := log, written := some (tidyPath output, report), ending := .finished } := by
  simp only [deliver, if_neg houtput, hwrite]

theorem deliver_silent (files : Files) (output log report : String) :
    (deliver files output log report).ending = .finished ∨
      (deliver files output log report).Silent := by
  by_cases houtput : output = "-"
  · rw [houtput, deliver_printed]
    exact .inl rfl
  · cases hwrite : files.write (tidyPath output) with
    | ok =>
      rw [deliver_written houtput hwrite]
      exact .inl rfl
    | error fault =>
      simp only [deliver, if_neg houtput, hwrite]
      exact .inr ⟨rfl, rfl⟩

theorem conclude_silent (files : Files) (output log : String) (outcome : Except Failure Selection) :
    (conclude files output log outcome).ending = .finished ∨
      (conclude files output log outcome).Silent := by
  cases outcome with
  | error f => exact .inr ⟨rfl, rfl⟩
  | ok s =>
    rw [conclude]
    exact deliver_silent files output log _

theorem silent_of_fails {r : Run} (h : r.ending = .finished ∨ r.Silent) (hfails : r.ending.Fails) :
    r.Silent := by
  refine h.resolve_left fun hfinished => ?_
  rw [hfinished] at hfails
  exact hfails

/-- A run that fails prints nothing and writes nothing. -/
theorem run_silent (h : (run files argv).ending.Fails) : (run files argv).Silent := by
  cases hread : Arguments.read argv with
  | error refusal =>
    cases refusal with
    | help =>
      rw [run_help hread] at h
      have hcode : (0 : Nat) ≠ 0 := h
      exact absurd rfl hcode
    | misuse m =>
      rw [run_misused hread]
      exact misused_silent m
  | ok a =>
    cases hexplain : a.explain with
    | some raw =>
      rw [run_explaining hread hexplain] at h ⊢
      exact silent_of_fails (explain_silent a.logLevel raw) h
    | none =>
      rcases run_selecting files hread hexplain with
        ⟨-, hrun⟩ | ⟨dataset, predicates, log, -, hrun⟩
      · rw [hrun]
        exact misused_silent .noFiles
      · have hends := conclude_silent files a.output log (chosen files dataset predicates a.idField)
        rw [← hrun] at hends
        exact silent_of_fails hends h

/-! ## Routes -/

/-- What two runs come to of which one writes to a path and the other prints: both fail alike, or
the text that one writes is what the other prints, without the line break at its end. -/
inductive SameResult (path : String) (writing printing : Run) : Prop
  | fails : writing.ending.Fails → printing.ending = writing.ending →
      (∀ code, writing.ending = .exited code → printing.stderr = writing.stderr) →
      writing.Silent → printing.Silent → SameResult path writing printing
  | finishes (text : String) : writing.ending = .finished → printing.ending = .finished →
      writing.written = some (path, text) → writing.stdout = "" →
      printing.stdout = text ++ "\n" → printing.written = none → SameResult path writing printing

theorem misused_sameResult (path : String) (m : Misuse) :
    SameResult path (misused m) (misused m) :=
  .fails (Nat.succ_ne_zero 1) rfl (fun _ _ => rfl) (misused_silent m) (misused_silent m)

theorem conclude_sameResult {output : String} (houtput : output ≠ "-")
    (hwrite : files.write (tidyPath output) = .ok ()) (log log' : String)
    (outcome : Except Failure Selection) :
    SameResult (tidyPath output) (conclude files output log outcome)
      (conclude files "-" log' outcome) := by
  cases outcome with
  | error f => exact .fails trivial rfl nofun ⟨rfl, rfl⟩ ⟨rfl, rfl⟩
  | ok s =>
    rw [conclude, conclude, deliver_written houtput hwrite, deliver_printed]
    exact .finishes _ rfl rfl rfl rfl rfl rfl

/-- The route of the output does not change the result, whatever is logged. -/
theorem run_sameResult (hread : Arguments.read argv = .ok a) (hexplain : a.explain = none)
    (hread' : Arguments.read argv' = .ok { a with output := "-", logLevel := level })
    (houtput : a.output ≠ "-") (hwrite : files.write (tidyPath a.output) = .ok ()) :
    SameResult (tidyPath a.output) (run files argv) (run files argv') := by
  rcases run_selecting_alike files hread hread' hexplain hexplain rfl rfl with
    ⟨hrun, hrun'⟩ | ⟨outcome, log, log', hrun, hrun'⟩
  · rw [hrun, hrun']
    exact misused_sameResult _ .noFiles
  · rw [hrun, hrun']
    exact conclude_sameResult houtput hwrite log log' outcome

/-! ## Log levels -/

/-- Runs that print, write and end alike, but may log differently. -/
structure SameButLog (r r' : Run) : Prop where
  stdout : r.stdout = r'.stdout
  written : r.written = r'.written
  ending : r.ending = r'.ending

theorem explain_sameButLog (level level' : LogLevel) (raw : String) :
    SameButLog (explain level raw) (explain level' raw) := by
  unfold explain
  cases Query.parse .default raw with
  | error m => exact ⟨rfl, rfl, rfl⟩
  | ok q =>
    cases hq : q.describe .default with
    | error f =>
      simp only [hq]
      exact ⟨rfl, rfl, rfl⟩
    | ok canonical =>
      simp only [hq]
      exact ⟨rfl, rfl, rfl⟩

theorem deliver_sameButLog (files : Files) (output log log' report : String) :
    SameButLog (deliver files output log report) (deliver files output log' report) := by
  unfold deliver
  split
  · exact ⟨rfl, rfl, rfl⟩
  · cases hwrite : files.write (tidyPath output) with
    | ok =>
      simp only [hwrite]
      exact ⟨rfl, rfl, rfl⟩
    | error fault =>
      simp only [hwrite]
      exact ⟨rfl, rfl, rfl⟩

theorem conclude_sameButLog (files : Files) (output log log' : String)
    (outcome : Except Failure Selection) :
    SameButLog (conclude files output log outcome) (conclude files output log' outcome) := by
  cases outcome with
  | error f => exact ⟨rfl, rfl, rfl⟩
  | ok s =>
    rw [conclude, conclude]
    exact deliver_sameButLog files output log log' _

/-- The log level changes nothing but the log. -/
theorem run_sameButLog (hread : Arguments.read argv = .ok a)
    (hread' : Arguments.read argv' = .ok { a with logLevel := level }) :
    SameButLog (run files argv) (run files argv') := by
  cases hexplain : a.explain with
  | some raw =>
    rw [run_explaining hread hexplain, run_explaining hread' hexplain]
    exact explain_sameButLog a.logLevel level raw
  | none =>
    rcases run_selecting_alike files hread hread' hexplain hexplain rfl rfl with
      ⟨hrun, hrun'⟩ | ⟨outcome, log, log', hrun, hrun'⟩
    · rw [hrun, hrun']
      exact ⟨rfl, rfl, rfl⟩
    · rw [hrun, hrun']
      exact conclude_sameButLog files a.output log log' outcome

/-! ## All runs -/

/-- What holds of all runs among the same files. -/
structure Contained (files : Files) : Prop where
  /-- A run that fails leaves nothing behind. -/
  silent : ∀ argv, (run files argv).ending.Fails → (run files argv).Silent
  /-- The route of the output does not change the result. -/
  routes : ∀ argv argv' a level, Arguments.read argv = .ok a → a.explain = none →
    Arguments.read argv' = .ok { a with output := "-", logLevel := level } →
    a.output ≠ "-" → files.write (tidyPath a.output) = .ok () →
    SameResult (tidyPath a.output) (run files argv) (run files argv')
  /-- There are such command lines for every selection. -/
  selections : ∀ dataset predicates idField output level level', predicates ≠ "--" →
    output ≠ "-" → files.write (tidyPath output) = .ok () →
    SameResult (tidyPath output) (run files (spelled dataset predicates idField output level))
      (run files (spelled dataset predicates idField "-" level'))
  /-- The log level changes nothing but the log. -/
  levels : ∀ argv argv' a level, Arguments.read argv = .ok a →
    Arguments.read argv' = .ok { a with logLevel := level } →
    SameButLog (run files argv) (run files argv')

/-- **Failing runs leave nothing behind, and neither the route of the output nor the log level
changes the result.** -/
theorem run_contained (files : Files) : Contained files where
  silent _ := run_silent
  routes _ _ _ _ hread hexplain hread' := run_sameResult hread hexplain hread'
  selections dataset _ idField output level level' hpredicates :=
    run_sameResult (read_spelled dataset idField output level hpredicates) rfl
      (read_spelled dataset idField "-" level' hpredicates)
  levels _ _ _ _ := run_sameButLog

/-- A dataset of one crate and a rule about its mass. -/
def crateFiles : Files := fun path =>
  if path = "crates.json" then .file "[\x7b\"id\": \"a\", \"mass\": 5\x7d]".toUTF8.toList
  else if path = "rules.yaml" then
    .file "predicates: [\x7bname: heavy, attribute: mass, query: '> 3'\x7d]".toUTF8.toList
  else .absent

/-- The crate is selected alike on both routes, and a missing dataset leaves nothing behind. -/
theorem contained_crateFiles :
    SameResult "report.json"
      (run crateFiles (spelled "crates.json" "rules.yaml" "id" "report.json" .warning))
      (run crateFiles (spelled "crates.json" "rules.yaml" "id" "-" .debug)) ∧
    ¬ (run crateFiles
      (spelled "crates.json" "rules.yaml" "id" "report.json" .warning)).ending.Fails ∧
    (run crateFiles ["crates.csv", "rules.yaml"]).ending.Fails ∧
    (run crateFiles ["crates.csv", "rules.yaml"]).Silent := by
  have hfinishes : ¬ (run crateFiles
      (spelled "crates.json" "rules.yaml" "id" "report.json" .warning)).ending.Fails := by
    decide +kernel
  have hfails : (run crateFiles ["crates.csv", "rules.yaml"]).ending.Fails := by decide +kernel
  exact ⟨(run_contained crateFiles).selections "crates.json" "rules.yaml" "id" "report.json"
      .warning .debug (by decide) (by decide) rfl, hfinishes, hfails,
    (run_contained crateFiles).silent _ hfails⟩

end EntitySelection.Command
