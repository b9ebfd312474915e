import EntitySelection.Numeral
import EntitySelection.Value.Render

/-!
# Values as numbers

Whole numbers are rounded; texts and bytes are read as numerals.
-/

namespace EntitySelection

/-- Why a value is no number. -/
inductive NumberFault where
  /-- A text or bytes that are no numeral. -/
  | unreadable (v : Value)
  /-- A value of a kind that has no number. -/
  | notNumeric (v : Value)
  /-- A whole number beyond the largest number. -/
  | tooLarge

def NumberFault.message : NumberFault → String
  | unreadable v => "could not convert string to float: " ++ v.quoted
  | notNumeric v => "float() argument must be a string or a real number, not '" ++ v.typeName ++ "'"
  | tooLarge => "int too large to convert to float"

/-- A whole number, if it rounds to a finite number. -/
def Binary64.ofInt? (n : Int) : Option Binary64 :=
  let x := ofInt n
  if x.isFinite then some x else none

/-- The number of a value. -/
def Value.toNumber (v : Value) : Except NumberFault Binary64 :=
  match v with
  | .float x => .ok x
  | .flag b => .ok (.ofInt (flagInt b))
  | .int n => match Binary64.ofInt? n with
    | some x => .ok x
    | none => .error .tooLarge
  | .text s => match Numeral.read? s with
    | some n => .ok n.toBinary64
    | none => .error (.unreadable v)
  | .bytes bs => match Numeral.readBytes? bs with
    | some n => .ok n.toBinary64
    | none => .error (.unreadable v)
  | _ => .error (.notNumeric v)

end EntitySelection
