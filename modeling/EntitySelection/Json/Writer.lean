import EntitySelection.Binary64.Layout
import EntitySelection.Text.Quoted
import EntitySelection.Value.Render

/-!
# Writing JSON

Values as JSON in ASCII: on one line, or with each item on a line of its own. Characters beyond
ASCII are written by their UTF-16 code units.
-/

namespace EntitySelection

/-- Numbers in JSON. -/
def Binary64.Layout.json : Binary64.Layout := ⟨-4, 16, 2, "Infinity", "-Infinity", "NaN"⟩

namespace Json

/-- A code unit as an escape. -/
def unitEscape (n : Nat) : List Char := ['\\', 'u'] ++ Text.hexDigits 4 n

def escapeChar (c : Char) : List Char :=
  let n := c.toNat
  if c = '"' then ['\\', '"']
  else if c = '\\' then ['\\', '\\']
  else if c = '\n' then ['\\', 'n']
  else if c = '\r' then ['\\', 'r']
  else if c = '\t' then ['\\', 't']
  else if c = '\x0c' then ['\\', 'f']
  else if c = '\x08' then ['\\', 'b']
  else if 0x20 ≤ n && n ≤ 0x7e then [c]
  else if n < 0x10000 then unitEscape n
  else
    unitEscape (0xd800 + (n - 0x10000) / 0x400) ++ unitEscape (0xdc00 + (n - 0x10000) % 0x400)

/-- A text as a string. -/
def quoted (s : String) : String := String.ofList ('"' :: (s.toList.flatMap escapeChar ++ ['"']))

/-- What separates items at a depth: a line break and the indentation, or nothing. -/
def lineGap (indent : Option Nat) (depth : Nat) : String :=
  match indent with
  | none => ""
  | some n => String.ofList ('\n' :: List.replicate (n * depth) ' ')

/-- Items between an opening and a closing mark. -/
def enclosed (indent : Option Nat) (depth : Nat) (opening closing : String)
    (items : List String) : String :=
  if items.isEmpty then opening ++ closing
  else
    let separator := "," ++ (if indent.isNone then " " else lineGap indent (depth + 1))
    opening ++ lineGap indent (depth + 1) ++ Value.joined separator items ++
      lineGap indent depth ++ closing

mutual

/-- A value at a depth. Kinds of values that JSON lacks are written as their text. -/
def written (indent : Option Nat) (depth : Nat) : Value → String
  | .null => "null"
  | .flag b => if b then "true" else "false"
  | .int n => toString n
  | .float x => String.ofList (Binary64.layoutChars .json x)
  | .text s => quoted s
  | .list vs => enclosed indent depth "[" "]" (writtenItems indent (depth + 1) vs)
  | .map es => enclosed indent depth "\x7b" "\x7d" (writtenMembers indent (depth + 1) es)
  | .bytes bs => quoted (Text.quotedBytes bs)
  | .moment m => quoted m.text
  | .object as => quoted (Value.object as).render

def writtenItems (indent : Option Nat) (depth : Nat) : List Value → List String
  | [] => []
  | v :: vs => written indent depth v :: writtenItems indent depth vs

def writtenMembers (indent : Option Nat) (depth : Nat) : List (Value × Value) → List String
  | [] => []
  | (k, v) :: es =>
    (quoted k.render ++ ": " ++ written indent depth v) :: writtenMembers indent depth es

end

/-- A value on one line. -/
def line (v : Value) : String := written none 0 v

/-- A value on several lines, each depth indented by two. -/
def page (v : Value) : String := written (some 2) 0 v

end Json

end EntitySelection
