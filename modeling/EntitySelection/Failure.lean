import EntitySelection.Comparator
import EntitySelection.Files
import EntitySelection.Json.Fault
import EntitySelection.Schema.Issue
import EntitySelection.Yaml.Fault

/-!
# Failures

Everything that can go wrong when queries are read, registries are filled and entities are
selected. Each cause has its own constructor; `Failure.message` words them all.
-/

namespace EntitySelection

open Value (joined)

/-- Why a text is no query. -/
inductive Malformation where
  /-- The operand holds an underscore. -/
  | digitSeparators
  /-- The operand, given without the spaces around it, is no numeral. -/
  | notNumber (operand : String)
  /-- A reason given in words, if one is given. -/
  | stated (reason : Option String)
  deriving DecidableEq, Repr

def Malformation.reason : Malformation → String
  | digitSeparators => "digit separators are not allowed"
  | notNumber operand => Text.quoted operand ++ " is not a number"
  | stated reason => reason.getD ""

/-- A text that is no query. -/
structure Malformed where
  raw : String
  cause : Malformation
  deriving DecidableEq, Repr

def Malformed.message (m : Malformed) : String :=
  let head := "Malformed comparison query " ++ Text.quoted m.raw
  if m.cause.reason = "" then head else head ++ ": " ++ m.cause.reason

/-- What a query names as its comparator: one of the six or, in a query that was never checked,
any value. -/
inductive Operator where
  | known (c : Comparator)
  | unchecked (v : Value)

namespace Operator

/-- The comparator that an operator stands for. The name of a comparator stands for it. -/
def comparator? : Operator → Option Comparator
  | known c => some c
  | unchecked (.text s) => Comparator.ofName? s
  | unchecked _ => none

/-- The value of an operator that cannot even be looked up. -/
def notKey? : Operator → Option Value
  | known _ => none
  | unchecked v => if v.isKey then none else some v

def render : Operator → String
  | known c => c.label
  | unchecked v => v.render

def quoted : Operator → String
  | known c => "<" ++ c.label ++ ": '" ++ c.name ++ "'>"
  | unchecked v => v.quoted

end Operator

/-- Why an operation failed. -/
inductive Failure where
  | malformed (m : Malformed)
  /-- A comparator was given no tokens. -/
  | noTokens (c : Comparator)
  /-- A token is empty or has blanks around it. -/
  | invalidToken (token : String)
  /-- A token already belongs to another comparator. -/
  | tokenTaken (token : String) (holder wanted : Comparator)
  /-- An operator without a canonical token; `available` are the comparators that have one. -/
  | notRegistered (operator : Operator) (available : List Comparator)
  /-- An operator without a comparison. -/
  | noComparison (operator : Operator)
  /-- Comparators without a comparison. -/
  | incomplete (missing : List Comparator)
  /-- A value that cannot be a key was looked up. -/
  | notKey (v : Value)
  | number (fault : NumberFault)
  | emptyPath
  | blankExtractorName
  /-- A name without an extractor; `available` are the names that have one. -/
  | unknownExtractor (name : String) (available : List String)
  /-- A predicate of the named kind has nothing to read the attribute with. -/
  | noExtractor (predicateKind : String)
  | duplicateId (id : String) (position : Nat)
  | invalid (i : Schema.Invalid)
  /-- A text that is none of the names of an enumeration. -/
  | unknownMember (text enumeration : String)
  | missingAttribute (v : Value) (name : String)
  | notCallable (v : Value)
  | yaml (fault : Yaml.Fault)
  /-- A predicate file that is no map, or has no list of predicates. -/
  | noPredicates
  | json (fault : Json.Fault)
  | encoding (fault : Text.Utf8.Fault)
  /-- A field of a table is too long. -/
  | fieldTooLong (limit : Nat)
  /-- A dataset that is neither a list nor a map. -/
  | notList
  /-- A dataset that is a map without a list of entities. -/
  | noEntityList
  | unknownFormat
  | noDataset (path : String)
  | file (path : String) (fault : FileFault)
  /-- A failure of a host's own code, with the host's word for its kind. -/
  | foreign (kind message : String)

/-- Names in quotes in alphabetical order. -/
def sortedNames (names : List String) : List String := names.mergeSort (fun a b => a ≤ b)

theorem mem_sortedNames {names : List String} {name : String} :
    name ∈ sortedNames names ↔ name ∈ names :=
  List.mem_mergeSort

/-- Where no name occurs twice, the order is strict. -/
theorem sortedNames_pairwise {names : List String} (h : names.Nodup) :
    (sortedNames names).Pairwise (· < ·) := by
  have hsorted : (sortedNames names).Pairwise (fun s t => decide (s ≤ t) = true) := by
    apply List.pairwise_mergeSort
    · intro s t u hst htu
      simp only [decide_eq_true_eq] at hst htu ⊢
      exact String.le_trans hst htu
    · intro s t
      simpa using String.le_total s t
  have hnodup : (sortedNames names).Nodup := (List.mergeSort_perm _ _).nodup_iff.2 h
  refine (hsorted.and hnodup).imp ?_
  intro s t hst
  obtain ⟨hle, hne⟩ := hst
  exact Std.lt_of_le_of_ne (of_decide_eq_true hle) hne

def Failure.message : Failure → String
  | malformed m => m.message
  | noTokens c => "Comparator '" ++ c.name ++ "' needs at least one token"
  | invalidToken t => "Invalid comparator token " ++ Text.quoted t
  | tokenTaken t holder wanted =>
    "Token '" ++ t ++ "' is already registered for '" ++ holder.name ++
      "', cannot register it for '" ++ wanted.name ++ "'"
  | notRegistered op available =>
    "Comparator '" ++ op.render ++ "' not registered. Available: " ++
      joined ", " (sortedNames (available.map (·.name)))
  | noComparison op => "No evaluator for comparator " ++ op.quoted
  | incomplete missing =>
    "Comparators without tokens: " ++ joined ", " (missing.map (·.name))
  | notKey v => "unhashable type: '" ++ v.typeName ++ "'"
  | number fault => fault.message
  | emptyPath => "Field path cannot be empty"
  | blankExtractorName => "Extractor name cannot be empty"
  | unknownExtractor name available =>
    "Extractor '" ++ name ++ "' not found. Available: " ++ joined ", " (sortedNames available)
  | noExtractor kind => kind ++ " has no extractor"
  | duplicateId id position =>
    "Duplicate entity id '" ++ id ++ "' at position " ++ toString position
  | invalid i => toString i.issues.length ++ " issues in " ++ i.model
  | unknownMember text enumeration =>
    Text.quoted text ++ " is not a valid " ++ enumeration
  | missingAttribute v name => "'" ++ v.typeName ++ "' object has no attribute '" ++ name ++ "'"
  | notCallable v => "'" ++ v.typeName ++ "' object is not callable"
  | yaml fault => fault.message
  | noPredicates => "Predicates YAML must be a mapping with a 'predicates' key"
  | json fault => fault.message
  | encoding fault => fault.message
  | fieldTooLong limit => "field larger than field limit (" ++ toString limit ++ ")"
  | notList => "JSON must be an array of objects"
  | noEntityList => "JSON must be an array or object with 'items'/'entities'/'records' list"
  | unknownFormat => "Unsupported dataset format. Use .csv, .json or .ndjson"
  | noDataset path => path
  | file path fault => fault.message path
  | foreign _ message => message

end EntitySelection
