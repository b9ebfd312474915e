import EntitySelection.Failure
import EntitySelection.Schema.Scalar

/-!
# Mods and what the workshop knows of them

A mod has a local name, a friendly name, a workshop id and a flag that tells whether another mod
needs it. The workshop describes published items by title and description. Both are checked from
data, and every later assignment to a mod is checked like the data.
-/

namespace EntitySelection.Workshop

open Schema

/-- A mod. -/
structure ModItem where
  name : String
  friendlyName : String
  publishedFileId : Nat
  isDependency : Bool
  deriving DecidableEq, Repr

/-- What the workshop says of an item. -/
structure ItemDetails where
  publishedFileId : Int
  title : String
  description : String
  deriving DecidableEq, Repr

namespace ModItem

def modelName : String := "ModItem"

/-- A workshop id: a whole number that is not negative. -/
def checkId : Check Nat := fun v => (Check.atLeast 0 v).map Int.toNat

def check : Check ModItem := Check.record modelName fun es =>
  mk <$> Check.required es "name" Check.text
    <*> Check.optional es "friendly_name" "" Check.text
    <*> Check.required es "published_file_id" checkId
    <*> Check.optional es "is_dependency" false Check.flag

def toValue (m : ModItem) : Value := .map [
  (.text "name", .text m.name),
  (.text "friendly_name", .text m.friendlyName),
  (.text "published_file_id", .int m.publishedFileId),
  (.text "is_dependency", .flag m.isDependency)]

end ModItem

namespace ItemDetails

def modelName : String := "PublishedItemDetails"

def check : Check ItemDetails := Check.record modelName fun es =>
  mk <$> Check.required es "published_file_id" Check.int
    <*> Check.required es "title" Check.text
    <*> Check.optional es "description" "" Check.text

def toValue (d : ItemDetails) : Value := .map [
  (.text "published_file_id", .int d.publishedFileId),
  (.text "title", .text d.title),
  (.text "description", .text d.description)]

end ItemDetails

/-- A mod with the description that the workshop gave, null before there is one. -/
structure ModInfo where
  item : ModItem
  description : Value

/-- What can be assigned of a mod. -/
inductive Property where
  | name
  | friendlyName
  | publishedFileId
  | isDependency
  | description
  deriving DecidableEq, Repr

namespace ModInfo

/-- A mod before the workshop was asked. -/
def ofItem (m : ModItem) : ModInfo := ⟨m, .null⟩

/-- The value of a property. -/
def get (m : ModInfo) : Property → Value
  | .name => .text m.item.name
  | .friendlyName => .text m.item.friendlyName
  | .publishedFileId => .int m.item.publishedFileId
  | .isDependency => .flag m.item.isDependency
  | .description => m.description

/-- The outcome of checking a value for a field of a mod. -/
def assignField {α : Type} (field : String) (check : Check α) (v : Value) (set : α → ModInfo) :
    Except Failure ModInfo :=
  match ((check v).under (.field field)).toExcept ModItem.modelName with
  | .ok a => .ok (set a)
  | .error i => .error (.invalid i)

/-- Assigns a property; a value that does not fit is refused. Any value fits the description. -/
def assign (m : ModInfo) (p : Property) (v : Value) : Except Failure ModInfo :=
  match p with
  | .name => assignField "name" Check.text v fun s => { m with item.name := s }
  | .friendlyName =>
    assignField "friendly_name" Check.text v fun s => { m with item.friendlyName := s }
  | .publishedFileId =>
    assignField "published_file_id" ModItem.checkId v fun n =>
      { m with item.publishedFileId := n }
  | .isDependency =>
    assignField "is_dependency" Check.flag v fun b => { m with item.isDependency := b }
  | .description => .ok { m with description := v }

end ModInfo

end EntitySelection.Workshop
