import EntitySelection.Binary64.Rounding
import EntitySelection.Text.Blank
import EntitySelection.Text.Digit

/-!
# Numerals

A numeral is a sign followed by a decimal number, by an infinity or by what is not a number:

* a decimal number is digits with an optional fraction, a digit at least on one side of the
  point, and an optional exponent with an optional sign;
* an infinity is `inf` or `infinity`, and what is not a number is `nan`, in any case.

`ofChars?` reads numerals in ASCII. `read?` reads numerals in a text: spaces may stand around
them, their digits may be of any script, and single underscores may stand between digits.
-/

namespace EntitySelection

/-- A numeral as it is written: `coefficient · 10 ^ exponent` with a sign, or a special. -/
inductive Numeral where
  | decimal (negative : Bool) (coefficient : Nat) (exponent : Int)
  | infinite (negative : Bool)
  | nan
  deriving DecidableEq, Repr

namespace Numeral

open Text

/-- The number nearest to a numeral. -/
def toBinary64 : Numeral → Binary64
  | decimal s c e => .signed s (.ofDecimal c e)
  | infinite s => .signed s .infinity
  | nan => .nan

/-- The number that a list of digits writes, read after the number `start`. -/
def digitsValue (start : Nat) (ds : List Char) : Nat :=
  ds.foldl (fun n c => 10 * n + (asciiDigitValue? c).getD 0) start

def isAsciiDigit (c : Char) : Bool := (asciiDigitValue? c).isSome

/-- A sign, if there is one: whether it is negative, and what follows. -/
def splitSign : List Char → Bool × List Char
  | '-' :: cs => (true, cs)
  | '+' :: cs => (false, cs)
  | cs => (false, cs)

/-- What follows the digits and the fraction: nothing or an exponent. -/
def exponent? : List Char → Option Int
  | [] => some 0
  | c :: cs =>
    if c = 'e' || c = 'E' then
      let (negative, ds) := splitSign cs
      if !ds.isEmpty && ds.all isAsciiDigit then
        some (Binary64.applySign negative (digitsValue 0 ds))
      else none
    else none

/-- A decimal number without its sign: coefficient and exponent. -/
def unsigned? (cs : List Char) : Option (Nat × Int) :=
  let whole := cs.takeWhile isAsciiDigit
  let rest := cs.dropWhile isAsciiDigit
  let (fraction, rest) := match rest with
    | '.' :: tail => (tail.takeWhile isAsciiDigit, tail.dropWhile isAsciiDigit)
    | _ => ([], rest)
  if whole.isEmpty && fraction.isEmpty then none
  else (exponent? rest).map fun e =>
    (digitsValue (digitsValue 0 whole) fraction, e - fraction.length)

/-- Lower case of the letters `A` to `Z`. -/
def foldCase (cs : List Char) : List Char := cs.map Char.toLower

/-- Reads a numeral in ASCII. -/
def ofChars? (cs : List Char) : Option Numeral :=
  let (negative, body) := splitSign cs
  let word := foldCase body
  if word = ['i', 'n', 'f'] || word = ['i', 'n', 'f', 'i', 'n', 'i', 't', 'y'] then
    some (.infinite negative)
  else if word = ['n', 'a', 'n'] then some .nan
  else (unsigned? body).map fun (c, e) => .decimal negative c e

/-- A digit of any script as one of `0` to `9`, and every other character as it is. -/
def plainDigit (c : Char) : Char :=
  match digitValue? c with
  | some d => Char.ofNat ('0'.toNat + d)
  | none => c

/-- Leaves out underscores between digits; fails at any other underscore. `afterDigit` tells
whether the character before is a digit. -/
def dropSeparators (afterDigit : Bool) : List Char → Option (List Char)
  | [] => some []
  | '_' :: cs =>
    match cs with
    | d :: _ => if afterDigit && isAsciiDigit d then dropSeparators false cs else none
    | [] => none
  | c :: cs => (dropSeparators (isAsciiDigit c) cs).map (c :: ·)

/-- Reads a numeral in a text. -/
def read? (s : String) : Option Numeral :=
  (dropSeparators false ((trim isSpace s.toList).map plainDigit)).bind ofChars?

/-- Reads a numeral in ASCII bytes. -/
def readBytes? (bs : List UInt8) : Option Numeral :=
  let cs := bs.map fun b => Char.ofNat b.toNat
  if bs.all (· < 0x80) then (dropSeparators false (trim isSpace cs)).bind ofChars? else none

end Numeral

end EntitySelection
