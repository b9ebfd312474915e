import EntitySelection.Value.Key

/-!
# Tables of comma-separated fields

A record is a line of fields between commas. A field may be enclosed in quotation marks; commas
and line ends then belong to it, and a doubled mark stands for one. What follows a closing mark
belongs to the field. A table that ends inside a field is taken as it is.

The first record names the columns of the others. A record with fewer fields has nulls in their
place; of one with more, the further fields stand in a list under null. Empty lines after the
first are no records.
-/

namespace EntitySelection.Csv

/-- The greatest length of a field. -/
def fieldLimit : Nat := 131072

/-- Where in a record the reader is. -/
inductive Place where
  | recordStart
  | fieldStart
  | inField
  | inQuotes
  /-- After a quotation mark in an enclosed field: it ends the field, or is the first of two. -/
  | afterQuote
  | recordEnd
  deriving DecidableEq, Repr

/-- A record that is being read: its fields and the characters of the current one, last first. -/
structure Reading where
  place : Place := .recordStart
  fields : List String := []
  current : List Char := []
  length : Nat := 0

namespace Reading

/-- Ends the current field. -/
def save (place : Place) (r : Reading) : Reading :=
  { place := place, fields := String.ofList r.current.reverse :: r.fields }

/-- Puts a character into the current field, if it is not too long. -/
def add (place : Place) (c : Char) (r : Reading) : Option Reading :=
  if fieldLimit ≤ r.length then none
  else some { r with place := place, current := c :: r.current, length := r.length + 1 }

/-- Reads a character where a field may start. -/
def startField (c : Char) (r : Reading) : Option Reading :=
  if c = '\n' then some (r.save .recordEnd)
  else if c = '"' then some { r with place := .inQuotes }
  else if c = ',' then some (r.save .fieldStart)
  else r.add .inField c

/-- Reads a character. -/
def step (r : Reading) (c : Char) : Option Reading :=
  match r.place with
  | .recordStart => if c = '\n' then some { r with place := .recordEnd } else r.startField c
  | .fieldStart => r.startField c
  | .inField =>
    if c = '\n' then some (r.save .recordEnd)
    else if c = ',' then some (r.save .fieldStart)
    else r.add .inField c
  | .inQuotes => if c = '"' then some { r with place := .afterQuote } else r.add .inQuotes c
  | .afterQuote =>
    if c = '"' then r.add .inQuotes c
    else if c = ',' then some (r.save .fieldStart)
    else if c = '\n' then some (r.save .recordEnd)
    else r.add .inField c
  | .recordEnd => some r

/-- Reads the characters of a line. -/
def line (r : Reading) : List Char → Option Reading
  | [] => some r
  | c :: cs => (r.step c).bind (line · cs)

/-- Ends a line: the record goes on if a field is still open. -/
def endLine (r : Reading) : Reading :=
  match r.place with
  | .recordStart | .recordEnd | .inQuotes => r
  | .fieldStart | .inField | .afterQuote => r.save .recordEnd

end Reading

/-- The records of lines, each with its line end; none if a field is too long. -/
def recordsFrom (r : Reading) : List String → Option (List (List String))
  | [] => some (if r.place = .inQuotes then [(r.save .recordEnd).fields.reverse] else [])
  | l :: ls => do
    let r ← r.line l.toList
    let r := r.endLine
    if r.place = .inQuotes then recordsFrom r ls
    else
      let records ← recordsFrom {} ls
      some (r.fields.reverse :: records)

def records (lines : List String) : Option (List (List String)) := recordsFrom {} lines

/-- A record as a map from the names of the columns. -/
def row (names fields : List String) : Value :=
  let named := (names.zip fields).map fun p => (Value.text p.1, Value.text p.2)
  let further :=
    if names.length < fields.length then
      [(Value.null, Value.list ((fields.drop names.length).map .text))]
    else (names.drop fields.length).map fun n => (Value.text n, Value.null)
  .mapOf (named ++ further)

/-- The rows of a table. -/
def rows (records : List (List String)) : List Value :=
  match records with
  | [] => []
  | names :: records => (records.filter (!·.isEmpty)).map (row names)

end EntitySelection.Csv
