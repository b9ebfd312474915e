import EntitySelection.Command.Arguments
import EntitySelection.Text.Quoted

/-!
# Help and usage

The texts that explain the command line, and the messages for its misuse.
-/

namespace EntitySelection.Command

def programName : String := "entityquery"

/-- The levels of logging as a choice. -/
def levelChoice : String :=
  "\x7b" ++ ",".intercalate (LogLevel.all.map (·.name)) ++ "\x7d"

def usage : String :=
  "usage: " ++ programName ++ " [-h] [--explain QUERY] [--id-field ID_FIELD]\n" ++
  "                   [--output OUTPUT] [--log-level " ++ levelChoice ++ "]\n" ++
  "                   [dataset] [predicates]\n"

def help : String :=
  usage ++
  "\nSelect entities by numeric comparison predicates\n" ++
  "\npositional arguments:\n" ++
  "  dataset               Entity dataset file (.csv, .json or .ndjson)\n" ++
  "  predicates            Predicates YAML file\n" ++
  "\noptions:\n" ++
  "  -h, --help            show this help message and exit\n" ++
  "  --explain QUERY       Parse a single query and print it\n" ++
  "  --id-field ID_FIELD\n" ++
  "  --output OUTPUT       Output file path or '-' for stdout\n" ++
  "  --log-level " ++ levelChoice ++ "\n"

def Misuse.message : Misuse → String
  | ambiguous argument names =>
    "ambiguous option: " ++ argument ++ " could match " ++ ", ".intercalate names
  | noValue s => "argument " ++ s.label ++ ": expected one argument"
  | needlessValue s text =>
    "argument " ++ s.label ++ ": ignored explicit argument " ++ Text.quoted text
  | unknownLevel text =>
    "argument " ++ Switch.logLevel.label ++ ": invalid choice: " ++ Text.quoted text ++
      " (choose from " ++ ", ".intercalate (LogLevel.all.map fun l => Text.quoted l.name) ++ ")"
  | unexpected arguments => "unrecognized arguments: " ++ " ".intercalate arguments
  | noFiles => "dataset and predicates are required unless --explain is given"

/-- What is printed for misuse. -/
def Misuse.report (m : Misuse) : String :=
  usage ++ programName ++ ": error: " ++ m.message ++ "\n"

end EntitySelection.Command
