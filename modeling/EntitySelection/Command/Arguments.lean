import EntitySelection.Text.Digit

/-!
# Arguments of the command line

**Words.** An argument that starts with a hyphen is a *switch*, if it is the name of one, an
unambiguous start of a long name, or a name with a value after an equals sign. A lone hyphen, a
negative number and an argument with a space are operands. The first `--` is a mark; all after
it are operands.

**Operands.** The two operands are taken together where the first operand stands; a later one is
not expected any more, even if the first place had only one.

**Faults.** Arguments are taken from left to right, and the first fault ends it. What was not
expected is a fault only at the end.
-/

namespace EntitySelection.Command

/-- What can be asked for by name. -/
inductive Switch where
  | help
  | explain
  | idField
  | output
  | logLevel
  deriving DecidableEq, Repr

namespace Switch

def names : Switch → List String
  | help => ["-h", "--help"]
  | explain => ["--explain"]
  | idField => ["--id-field"]
  | output => ["--output"]
  | logLevel => ["--log-level"]

/-- A switch in messages. -/
def label (s : Switch) : String := "/".intercalate s.names

def all : List Switch := [help, explain, idField, output, logLevel]

/-- All names, with their switches. -/
def named : List (String × Switch) := all.flatMap fun s => s.names.map (·, s)

/-- The switch of a name. -/
def ofName? (name : String) : Option Switch := named.lookup name

end Switch

/-- How much is logged. -/
inductive LogLevel where
  | debug
  | info
  | warning
  | error
  deriving DecidableEq, Repr

namespace LogLevel

def all : List LogLevel := [debug, info, warning, error]

def name : LogLevel → String
  | debug => "DEBUG"
  | info => "INFO"
  | warning => "WARNING"
  | error => "ERROR"

def ofName? (s : String) : Option LogLevel := all.find? (·.name == s)

end LogLevel

/-- What is wrong with arguments. -/
inductive Misuse where
  /-- A start of several names. -/
  | ambiguous (argument : String) (names : List String)
  /-- A switch that needs a value has none. -/
  | noValue (s : Switch)
  /-- A switch that takes no value has one. -/
  | needlessValue (s : Switch) (text : String)
  | unknownLevel (text : String)
  | unexpected (arguments : List String)
  /-- The dataset or the predicate file is not given. -/
  | noFiles
  deriving DecidableEq, Repr

/-! ## Words -/

/-- A value that is written into the argument of a switch, and whether an equals sign precedes
it. -/
structure Attached where
  afterEquals : Bool
  text : String
  deriving DecidableEq, Repr

/-- What an argument is. -/
inductive Word where
  | operand (text : String)
  | mark
  | switch (s : Switch) (name : String) (attached : Option Attached)
  | unknown (text : String)
  deriving DecidableEq, Repr

namespace Word

def isSwitch : Word → Bool
  | switch .. | unknown _ => true
  | operand _ | mark => false

/-- The argument of an operand or a mark. -/
def text : Word → String
  | operand s | unknown s => s
  | mark => "--"
  | switch _ name _ => name

/-- A text before and after its first equals sign. -/
def splitEquals (cs : List Char) : List Char × Option (List Char) :=
  let before := cs.takeWhile (· != '=')
  match cs.drop before.length with
  | [] => (before, none)
  | _ :: after => (before, some after)

/-- A negative number: digits, perhaps with a point and digits after it. A line feed may end
it. -/
def isNegativeNumber (cs : List Char) : Bool :=
  let cs := if cs.getLast? = some '\n' then cs.dropLast else cs
  match cs with
  | '-' :: cs =>
    let whole := cs.takeWhile Text.isDecimalDigit
    match cs.drop whole.length with
    | [] => !whole.isEmpty
    | '.' :: ds => !ds.isEmpty && ds.all Text.isDecimalDigit
    | _ => false
  | _ => false

/-- The switches that an argument can stand for, if it is no name: those with a long name of
which it is a start, or the one whose short name it starts with. -/
def candidates (cs : List Char) : List Word :=
  match cs with
  | '-' :: '-' :: _ =>
    let (start, value) := splitEquals cs
    (Switch.named.filter fun p => start.isPrefixOf p.1.toList).map fun (name, s) =>
      switch s name (value.map fun v => ⟨true, String.ofList v⟩)
  | a :: b :: rest =>
    (Switch.named.filter fun p => p.1.toList = [a, b]).map fun (name, s) =>
      switch s name (some ⟨false, String.ofList rest⟩)
  | _ => []

/-- What an argument before the mark is. -/
def ofArgument (s : String) : Except Misuse Word :=
  let cs := s.toList
  if cs.head? != some '-' then .ok (operand s)
  else match Switch.ofName? s with
    | some sw => .ok (switch sw s none)
    | none =>
      if cs.length = 1 then .ok (operand s)
      else
        let (name, value) := splitEquals cs
        let name := String.ofList name
        match Switch.ofName? name, value with
        | some sw, some v => .ok (switch sw name (some ⟨true, String.ofList v⟩))
        | _, _ =>
          match candidates cs with
          | [w] => .ok w
          | [] =>
            if isNegativeNumber cs || cs.contains ' ' then .ok (operand s) else .ok (unknown s)
          | ws => .error (.ambiguous s (ws.map text))

/-- The words of arguments. -/
def ofArguments : List String → Except Misuse (List Word)
  | [] => .ok []
  | "--" :: rest => .ok (mark :: rest.map operand)
  | s :: rest => do .ok ((← ofArgument s) :: (← ofArguments rest))

end Word

/-! ## Taking words -/

/-- What the arguments ask for. -/
structure Arguments where
  dataset : Option String := none
  predicates : Option String := none
  explain : Option String := none
  idField : String := "id"
  output : String := "-"
  logLevel : LogLevel := .warning
  deriving DecidableEq, Repr

/-- Why there are no arguments: help is asked for, or something is wrong. -/
inductive Refusal where
  | help
  | misuse (m : Misuse)
  deriving DecidableEq, Repr

/-- Arguments that are being taken. -/
structure Taking where
  arguments : Arguments := {}
  /-- Whether the operands have been taken. -/
  operandsTaken : Bool := false
  /-- What was not expected, last first. -/
  unexpected : List String := []

/-- The words of one operand: marks around at most one operand. Gives the words after them. -/
def splitOperand (ws : List Word) : List String × List Word :=
  let before := ws.takeWhile (· == .mark)
  let (middle, rest) := match ws.drop before.length with
    | .operand s :: rest => ([s], rest)
    | rest => ([], rest)
  let after := rest.takeWhile (· == .mark)
  (before.map Word.text ++ middle ++ after.map Word.text, rest.drop after.length)

/-- The value of the words of an operand, of which the first `--` does not count. -/
def operandValue (texts : List String) : Option String := (texts.erase "--").head?

/-- Takes both operands. -/
def takeOperands (t : Taking) (ws : List Word) : Taking × List Word :=
  let (first, ws) := splitOperand ws
  let (second, ws) := splitOperand ws
  ({ t with
    operandsTaken := true
    arguments.dataset := operandValue first
    arguments.predicates := operandValue second }, ws)

/-- Takes words that are not expected. -/
def takeUnexpected (t : Taking) (ws : List Word) : Taking :=
  { t with unexpected := (ws.map Word.text).reverse ++ t.unexpected }

/-- Takes words up to the next switch. -/
def takeUnswitched (t : Taking) (ws : List Word) : Taking :=
  if t.operandsTaken then takeUnexpected t ws
  else
    let (t, rest) := takeOperands t ws
    takeUnexpected t rest

/-- Takes a value for a switch. -/
def takeValue (t : Taking) (s : Switch) (v : String) : Except Refusal Taking :=
  match s with
  | .help => .error .help
  | .explain => .ok { t with arguments.explain := some v }
  | .idField => .ok { t with arguments.idField := v }
  | .output => .ok { t with arguments.output := v }
  | .logLevel => match LogLevel.ofName? v with
    | some l => .ok { t with arguments.logLevel := l }
    | none => .error (.misuse (.unknownLevel v))

/-- What a value written into the switch for help comes to. Letters after the short name are
taken for further short names; only help itself has one. -/
def helpValue (isShort afterEquals : Bool) (value : List Char) : Refusal :=
  let needless := .misuse (.needlessValue .help (String.ofList value))
  match value with
  | [] => needless
  | c :: rest =>
    if !isShort || afterEquals || c = '-' then needless
    else if c != 'h' then .help
    else match rest with
      | [] => .help
      | '=' :: rest => helpValue isShort true rest
      | rest => helpValue isShort false rest

/-- Takes a switch; gives the words after it and its value. -/
def takeSwitch (t : Taking) (s : Switch) (name : String) (attached : Option Attached)
    (ws : List Word) : Except Refusal (Taking × List Word) :=
  match attached with
  | some a =>
    if s = .help then .error (helpValue (name.length = 2) a.afterEquals a.text.toList)
    else (takeValue t s a.text).map (·, ws)
  | none =>
    if s = .help then .error .help
    else match ws with
      | .operand v :: ws => (takeValue t s v).map (·, ws)
      | _ => .error (.misuse (.noValue s))

/-- Takes all words; `count` bounds their number. -/
def takeAll : Nat → Taking → List Word → Except Refusal Taking
  | 0, t, _ => .ok t
  | count + 1, t, ws =>
    let here := ws.takeWhile (!·.isSwitch)
    let t := if here.isEmpty then t else takeUnswitched t here
    match ws.drop here.length with
    | [] => .ok t
    | .switch s name attached :: rest => do
      let (t, rest) ← takeSwitch t s name attached rest
      takeAll count t rest
    | w :: rest => takeAll count (takeUnexpected t [w]) rest

/-- Reads the arguments of the command line. -/
def Arguments.read (argv : List String) : Except Refusal Arguments :=
  match Word.ofArguments argv with
  | .error m => .error (.misuse m)
  | .ok ws => do
    let t ← takeAll (ws.length + 1) {} ws
    if t.unexpected.isEmpty then .ok t.arguments
    else .error (.misuse (.unexpected t.unexpected.reverse))

end EntitySelection.Command
