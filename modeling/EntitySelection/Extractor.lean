import EntitySelection.Failure
import EntitySelection.Named
import EntitySelection.Text.Lowercase

/-!
# Extractors

An extractor reads an attribute from an entity; null means that the entity has no such
attribute. A *field extractor* follows a dotted path of attribute names and gives a number or
null. A catalogue holds extractors under names; blanks around a name and its case do not matter.
-/

namespace EntitySelection

/-- Reads an attribute from an entity. -/
abbrev Extractor := Value → Except Failure Value

namespace Path

/-- The pieces of a text between dots. -/
def pieces (cs : List Char) : List (List Char) :=
  cs.foldr (fun c parts => match parts with
    | [] => if c = '.' then [[], []] else [[c]]
    | p :: ps => if c = '.' then [] :: p :: ps else (c :: p) :: ps) [[]]

/-- The names on a dotted path; empty ones are left out. -/
def segments (path : String) : List String :=
  ((pieces (Text.trim Text.isBlank path.toList)).filter (!·.isEmpty)).map String.ofList

/-- The value that a path leads to, if no attribute on it is missing or null. -/
def walk (v : Value) : List String → Option Value
  | [] => some v
  | s :: rest => match v.attribute? s with
    | some w => if w.isNull then none else walk w rest
    | none => none

end Path

namespace Extractor

/-- The number at the end of a path. Null and flags count as no number there. -/
def leafNumber : Value → Option Binary64
  | .null => none
  | .flag _ => none
  | v => v.toNumber.toOption

/-- The number that a path leads to. -/
def fieldNumber (segments : List String) (entity : Value) : Option Binary64 :=
  (Path.walk entity segments).bind leafNumber

/-- A number as a value, null if there is none. -/
def optionalNumber : Option Binary64 → Value
  | some x => .float x
  | none => .null

/-- The extractor of the number that a list of names leads to. -/
def ofSegments (segments : List String) : Extractor :=
  fun entity => .ok (optionalNumber (fieldNumber segments entity))

/-- The extractor of a dotted path, which must have a name on it. -/
def field (path : String) : Except Failure Extractor :=
  match Path.segments path with
  | [] => .error .emptyPath
  | segments => .ok (ofSegments segments)

/-- The name of the extractor of a path. -/
def fieldName (path : String) : String := "field_" ++ Value.joined "_" (Path.segments path)

end Extractor

/-- Extractors by name. -/
structure Catalogue where
  entries : List (String × Extractor)

namespace Catalogue

def empty : Catalogue := ⟨[]⟩

/-- The form of a name under which an extractor is kept. -/
def normalize (name : String) : String := Text.lowercase (Text.strip name)

/-- The names with an extractor. -/
def names (k : Catalogue) : List String := k.entries.map (·.1)

/-- The extractor of a name. -/
def find? (k : Catalogue) (name : String) : Option Extractor := k.entries.lookup (normalize name)

/-- Puts an extractor under a name; an earlier one of the same name is replaced. -/
def register (k : Catalogue) (name : String) (x : Extractor) : Except Failure Catalogue :=
  if normalize name = "" then .error .blankExtractorName
  else .ok ⟨Named.put k.entries (normalize name) x⟩

/-- Whether a value is the name of an extractor. -/
def contains (k : Catalogue) : Value → Bool
  | .text name => (k.find? name).isSome
  | _ => false

def get (k : Catalogue) (name : String) : Except Failure Extractor :=
  match k.find? name with
  | some x => .ok x
  | none => .error (.unknownExtractor name k.names)

/-- The extractor of an attribute: the one of that name, or that of the path. -/
def resolve (k : Catalogue) (name : String) : Except Failure Extractor :=
  match k.find? name with
  | some x => .ok x
  | none => Extractor.field name

end Catalogue

end EntitySelection
