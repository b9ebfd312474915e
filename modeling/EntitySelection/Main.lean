import EntitySelection.Command.Run

/-!
# The program

Looks up the paths that the arguments name, runs the command and does what the run tells.
-/

open EntitySelection EntitySelection.Command

/-- What a path leads to. -/
def lookUp (path : String) : IO FileState := do
  try
    return .file (← IO.FS.readBinFile path).toList
  catch
    | .noFileOrDirectory .. => return .absent
    | .inappropriateType .. => return .directory
    | _ => return .unreachable

/-- The paths that a run may look at. -/
def pathsOf (argv : List String) : List String :=
  match Arguments.read argv with
  | .error _ => []
  | .ok a =>
    (a.dataset.map tidyPath).toList ++ a.predicates.toList ++
      (if a.output = "-" then [] else [tidyPath a.output])

def main (argv : List String) : IO UInt32 := do
  let states ← (pathsOf argv).mapM fun p => return (p, ← lookUp p)
  let files : Files := fun path => (states.lookup path).getD .absent
  let r := run files argv
  IO.print r.stdout
  IO.eprint r.stderr
  match r.written with
  | some (path, text) => IO.FS.writeFile path text
  | none => pure ()
  match r.ending with
  | .finished => return 0
  | .exited code => return code.toUInt32
  | .failed f =>
    IO.eprintln f.message
    return 1
