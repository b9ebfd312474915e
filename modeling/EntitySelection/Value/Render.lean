import EntitySelection.Binary64.Layout
import EntitySelection.Text.Quoted
import EntitySelection.Value.Basic

/-!
# Values as text

The text of a value, as ids and messages show it. A text stands for itself on its own, and is
quoted inside a collection. An attribute without a name is not shown. A whole number is written with
all of its digits: a runtime's guard against too many of them is not modelled.
-/

namespace EntitySelection.Value

/-- Texts with a separator between them. -/
def joined (separator : String) (parts : List String) : String := separator.intercalate parts

mutual

/-- A value as it stands in a collection, whole numbers of any length included. -/
def quoted : Value → String
  | null => "None"
  | flag b => if b then "True" else "False"
  | int n => toString n
  | float x => x.text
  | text s => Text.quoted s
  | bytes bs => Text.quotedBytes bs
  | moment m => m.text
  | list items => "[" ++ joined ", " (quotedItems items) ++ "]"
  | map entries => "\x7b" ++ joined ", " (quotedEntries entries) ++ "\x7d"
  | object attributes => "namespace(" ++ joined ", " (quotedAttributes attributes) ++ ")"

def quotedItems : List Value → List String
  | [] => []
  | v :: vs => quoted v :: quotedItems vs

def quotedEntries : List (Value × Value) → List String
  | [] => []
  | (k, v) :: es => (quoted k ++ ": " ++ quoted v) :: quotedEntries es

def quotedAttributes : List (String × Value) → List String
  | [] => []
  | (k, v) :: as =>
    if k = "" then quotedAttributes as else (k ++ "=" ++ quoted v) :: quotedAttributes as

end

/-- A value on its own, whole numbers of any length included. -/
def render : Value → String
  | text s => s
  | v => v.quoted

end EntitySelection.Value
