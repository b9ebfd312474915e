/-!
# Faults of JSON texts

What is wrong with a JSON text, and where: the line and the column, both counted from one, and
the offset, counted from zero.
-/

namespace EntitySelection.Json

inductive Problem where
  | byteOrderMark
  | value
  | extraData
  | propertyName
  | colon
  | comma
  | controlCharacter
  | unterminated
  | escape
  | codeEscape
  deriving DecidableEq, Repr

def Problem.message : Problem → String
  | byteOrderMark => "Unexpected UTF-8 BOM (decode using utf-8-sig)"
  | value => "Expecting value"
  | extraData => "Extra data"
  | propertyName => "Expecting property name enclosed in double quotes"
  | colon => "Expecting ':' delimiter"
  | comma => "Expecting ',' delimiter"
  | controlCharacter => "Invalid control character at"
  | unterminated => "Unterminated string starting at"
  | escape => "Invalid \\escape"
  | codeEscape => "Invalid \\uXXXX escape"

structure Fault where
  problem : Problem
  line : Nat
  column : Nat
  offset : Nat
  deriving DecidableEq, Repr

/-- A problem at an offset in a text. -/
def Fault.at (text : List Char) (problem : Problem) (offset : Nat) : Fault :=
  let before := text.take offset
  ⟨problem, before.count '\n' + 1, (before.reverse.takeWhile (· != '\n')).length + 1, offset⟩

def Fault.message (f : Fault) : String :=
  f.problem.message ++ ": line " ++ toString f.line ++ " column " ++ toString f.column ++
    " (char " ++ toString f.offset ++ ")"

end EntitySelection.Json
