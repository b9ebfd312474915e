import EntitySelection.Workshop.Item

/-!
# Updates from the workshop

An update asks the workshop for the item of a mod and takes over its title and description. A
failed lookup is logged and counts as an answer without the item; a cancelled one ends the
update.

The answer should be a map from ids to details. A host may answer with any value; of an entry
that is no details, title and description are read as attributes.
-/

namespace EntitySelection.Workshop

open Schema

/-- What the workshop answers when it is asked for items. -/
inductive Answer where
  /-- Details under ids; null where there are none. -/
  | details (entries : List (Value × Option ItemDetails))
  /-- Any value. -/
  | value (v : Value)
  /-- An object of the host's own, whose method gives what is under an id, or fails. -/
  | getter (get : Nat → Except Failure Value)
  | failure (f : Failure)
  | cancelled (f : Failure)

/-- What an answer holds of an item. -/
inductive Found where
  | nothing
  | details (d : ItemDetails)
  | value (v : Value)
  | failure (f : Failure)
  | cancelled (f : Failure)

/-- The entry of a list of entries under an id, the last one if the id is repeated. -/
def entryOfId {α : Type} (entries : List (Value × α)) (id : Nat) : Option α :=
  (entries.reverse.find? (·.1.sameKey (.int id))).map (·.2)

/-- What an answer holds of the item of an id. -/
def Answer.find (id : Nat) : Answer → Found
  | .details entries => match entryOfId entries id with
    | some (some d) => .details d
    | _ => .nothing
  | .value .null => .nothing
  | .value (.map entries) => match entryOfId entries id with
    | some .null => .nothing
    | some v => .value v
    | none => .nothing
  | .value (.object attributes) => match attributes.lookup "get" with
    | some f => .failure (.notCallable f)
    | none => .failure (.missingAttribute (.object attributes) "get")
  | .value v => .failure (.missingAttribute v "get")
  | .getter get => match get id with
    | .ok .null => .nothing
    | .ok v => .value v
    | .error f => .failure f
  | .failure f => .failure f
  | .cancelled f => .cancelled f

inductive Level where
  | info
  | error
  deriving DecidableEq, Repr

def Level.name : Level → String
  | info => "INFO"
  | error => "ERROR"

/-- What an update did: the mod after it, what it answers, and its log. -/
structure Update where
  after : ModInfo
  result : Except Failure Bool
  log : List (Level × String)

namespace Update

/-- A failure as a log message shows it: the message of a failed look-up by key is quoted. -/
def failureText : Failure → String
  | .foreign kind message => if kind = "KeyError" then Text.quoted message else message
  | f => f.message

def lookupFailed (f : Failure) : Level × String :=
  (.error, "Workshop lookup failed: " ++ failureText f)

def notRetrieved (id : Nat) : Level × String :=
  (.error, "Failed to retrieve mod with workshop id '" ++ toString id ++ "'!")

def retrieved (id : Nat) : Level × String :=
  (.info, "Mod info successfully retrieved for workshop id '" ++ toString id ++ "'")

/-- An attribute of a host's entry. Texts and bytes can be put in title case, so `title` is
something there, but no text. -/
def entryAttribute (v : Value) (name : String) : Except Failure Value :=
  match v with
  | .object attributes => match attributes.lookup name with
    | some w => .ok w
    | none => .error (.missingAttribute v name)
  | .text _ | .bytes _ =>
    if name = "title" then .ok (.object []) else .error (.missingAttribute v name)
  | _ => .error (.missingAttribute v name)

/-- Takes over title and description of a host's entry, as far as they can be read. -/
def takeValue (m : ModInfo) (v : Value) : ModInfo × Except Failure Bool :=
  match (entryAttribute v "title").bind (m.assign .friendlyName) with
  | .error f => (m, .error f)
  | .ok titled => match entryAttribute v "description" with
    | .error f => (titled, .error f)
    | .ok d => ({ titled with description := d }, .ok true)

end Update

namespace ModInfo

/-- The ids for which an update asks. -/
def asked (m : ModInfo) : List Nat := [m.item.publishedFileId]

/-- Updates a mod with the answer of the workshop. -/
def update (m : ModInfo) (answer : Answer) : Update :=
  let id := m.item.publishedFileId
  match answer.find id with
  | .nothing => ⟨m, .ok false, [Update.notRetrieved id]⟩
  | .failure f => ⟨m, .ok false, [Update.lookupFailed f, Update.notRetrieved id]⟩
  | .cancelled f => ⟨m, .error f, []⟩
  | .details d =>
    ⟨⟨{ m.item with friendlyName := d.title }, .text d.description⟩, .ok true,
      [Update.retrieved id]⟩
  | .value v =>
    let (after, result) := Update.takeValue m v
    ⟨after, result, [Update.retrieved id]⟩

end ModInfo

end EntitySelection.Workshop
