import EntitySelection.Binary64.Arithmetic
import EntitySelection.Text.Lowercase
import EntitySelection.Yaml.Base64
import EntitySelection.Yaml.Tag

/-!
# Values of scalars

The value of a scalar's text under a tag. Separators in numbers are left out. A whole number is
decimal unless a zero before it makes it octal, `0b` binary or `0x` hexadecimal; colons make a
number sexagesimal. It may have any number of digits: a runtime's guard against too many of them is
not modelled.
-/

namespace EntitySelection.Yaml.Scalar

open Numeral (splitSign)

/-- The digit of a base that a character of any script stands for. -/
def digitIn? (base : Nat) (c : Char) : Option Nat :=
  (Text.hexValue? (Numeral.plainDigit c)).filter (· < base)

/-- The number that digits of a base write, if all are. -/
def digitsIn? (base : Nat) (cs : List Char) : Option Nat :=
  if cs.isEmpty then none
  else cs.foldl (fun n c => n.bind fun n => (digitIn? base c).map (base * n + ·)) (some 0)

/-- Digits without the letter that names their base. -/
def dropBase (base : Nat) (cs : List Char) : List Char :=
  match cs with
  | '0' :: c :: ds =>
    if (base = 2 && c.toLower = 'b') || (base = 8 && c.toLower = 'o') ||
        (base = 16 && c.toLower = 'x') then ds else cs
  | _ => cs

/-- A whole number in a base, with spaces around it. -/
def literal (base : Nat) (cs : List Char) : Except Fault Int :=
  let (negative, ds) := splitSign (Text.trim Text.isSpace cs)
  match digitsIn? base (dropBase base ds) with
  | some n => .ok (Binary64.applySign negative n)
  | none => .error (.notWhole base (String.ofList cs))

/-- A number in base sixty from its digits. -/
def sexagesimal (digits : List Int) : Int := digits.foldl (fun n d => n * 60 + d) 0

/-- A whole number after its sign. -/
def unsignedInt (cs : List Char) : Except Fault Int :=
  match cs with
  | [] => .error .emptyNumber
  | ['0'] => .ok 0
  | '0' :: 'b' :: ds => literal 2 ds
  | '0' :: 'x' :: ds => literal 16 ds
  | '0' :: _ => literal 8 cs
  | _ =>
    if cs.contains ':' then ((Tag.colonPieces cs).mapM (literal 10)).map sexagesimal
    else literal 10 cs

/-- A text without separators, split into its sign and the rest. -/
def signed (s : String) : Except Fault (Bool × List Char) :=
  match s.toList.filter (· != '_') with
  | [] => .error .emptyNumber
  | cs => .ok (splitSign cs)

def int (s : String) : Except Fault Int := do
  let (negative, cs) ← signed s
  let n ← unsignedInt cs
  .ok (if negative then -n else n)

def numeral (cs : List Char) : Except Fault Binary64 :=
  match (Value.text (String.ofList cs)).toNumber with
  | .ok x => .ok x
  | .error fault => .error (.number fault)

/-- The sum of digits, last first, each with its power of sixty. -/
def sexagesimalSum (total : Binary64) (power : Nat) : List Binary64 → Binary64
  | [] => total
  | d :: ds => sexagesimalSum (total.add (d.mul (.ofInt power))) (power * 60) ds

/-- A number after its sign. -/
def unsignedFloat (cs : List Char) : Except Fault Binary64 :=
  if cs = ".inf".toList then .ok .infinity
  else if cs = ".nan".toList then .ok .nan
  else if cs.contains ':' then
    ((Tag.colonPieces cs).mapM numeral).map fun ds => sexagesimalSum .zero 1 ds.reverse
  else numeral cs

def float (s : String) : Except Fault Binary64 := do
  let (negative, cs) ← signed (Text.lowercase s)
  let x ← unsignedFloat cs
  .ok (if negative then x.neg else x)

def flag (s : String) : Except Fault Bool :=
  let word := Text.lowercase s
  if ["yes", "true", "on"].contains word then .ok true
  else if ["no", "false", "off"].contains word then .ok false
  else .error (.notFlag word)

def moment (s : String) : Except Fault Moment :=
  match MomentText.read? (Tag.dropLineFeed s.toList) with
  | some m => m.toMoment.mapError .calendar
  | none => .error .notMoment

def binary (s : String) : Except Fault (List UInt8) :=
  if s.toList.all (·.toNat < 128) then
    match Base64.decode s.toList with
    | some bytes => .ok bytes
    | none => malformed
  else malformed

/-- The value of a scalar with a tag. Tags of collections and marks have none. -/
def value (tag : Tag) (s : String) : Except Fault Value :=
  match tag with
  | .null => .ok .null
  | .flag => (flag s).map .flag
  | .int => (int s).map .int
  | .float => (float s).map .float
  | .binary => (binary s).map .bytes
  | .moment => (moment s).map .moment
  | .text => .ok (.text s)
  | .sequence | .mapping | .set | .pairs | .merge | .default | .unknown => malformed

end EntitySelection.Yaml.Scalar
