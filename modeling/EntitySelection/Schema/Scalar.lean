import EntitySelection.Schema.Checked
import EntitySelection.Text.Utf8
import EntitySelection.Value.Key
import EntitySelection.Value.Number

/-!
# Checks of single values

A field takes data of its own kind and data that plainly stand for it: a text may be given as
UTF-8, a number as a numeral, a flag as `yes` or `off`. Each check below says what it takes.
-/

namespace EntitySelection.Schema.Check

/-- The text that a value writes, where a numeral or a flag is wanted. -/
def written? : Value → Option (Option String)
  | .text s => some (some s)
  | .bytes bs => some (Text.Utf8.decode bs).toOption
  | _ => none

/-- A text, or bytes in UTF-8. -/
def text : Check String
  | .text s => .ok s
  | .bytes bs => match Text.Utf8.decode bs with
    | .ok s => .ok s
    | .error _ => .problem .textUnicode
  | _ => .problem .textType

/-- One of the named choices, as a text or in UTF-8. -/
def choice {α : Type} (names : List String) (ofName? : String → Option α) : Check α := fun v =>
  match (written? v).join.bind ofName? with
  | some a => .ok a
  | none => .problem (.choice names)

/-! ## Numerals -/

/-- Whether two underscores stand side by side. -/
def hasDoubleUnderscore : List Char → Bool
  | '_' :: '_' :: _ => true
  | _ :: cs => hasDoubleUnderscore cs
  | [] => false

/-- Leaves out the underscores of a text in which they stand singly and not at an end. -/
def joinDigits? (cs : List Char) : Option (List Char) :=
  if !cs.contains '_' || cs.head? = some '_' || cs.getLast? = some '_' || hasDoubleUnderscore cs
  then none
  else some (cs.filter (· != '_'))

/-- A number, a flag, or a numeral in ASCII. Spaces may stand around a numeral; if there are
none, single underscores may stand inside it. -/
def number : Check Binary64 := fun v =>
  match written? v with
  | some none => .problem .numberParsing
  | some (some s) =>
    let cs := s.toList
    match Numeral.ofChars? (Text.trim Text.isSpace cs) with
    | some n => .ok n.toBinary64
    | none => match (joinDigits? cs).bind Numeral.ofChars? with
      | some n => .ok n.toBinary64
      | none => .problem .numberParsing
  | none => match v with
    | .float x => .ok x
    | .flag b => .ok (.ofInt (Value.flagInt b))
    | .int n => match Binary64.ofInt? n with
      | some x => .ok x
      | none => .problem .numberType
    | _ => .problem .numberType

/-- A sign and digits. -/
def signedDigits? (cs : List Char) : Option Int :=
  let (negative, ds) := Numeral.splitSign cs
  if !ds.isEmpty && ds.all Numeral.isAsciiDigit then
    some (Binary64.applySign negative (Numeral.digitsValue 0 ds))
  else none

/-- Leaves out zeros, and underscores among them, after the character `last`; a zero that no
digit follows stays. -/
def skipZeros? (last : Char) : List Char → Option (List Char)
  | [] => some [last]
  | c :: cs =>
    if c = '0' || c = '_' then skipZeros? c cs
    else if c = '.' then some (last :: c :: cs)
    else if Numeral.isAsciiDigit c then some (c :: cs)
    else none

/-- Leaves out the zeros that a number starts with. -/
def dropLeadingZeros? : List Char → Option (List Char)
  | '0' :: cs => skipZeros? '0' cs
  | c :: cs => if c = '-' || Numeral.isAsciiDigit c then some (c :: cs) else none
  | [] => none

/-- Leaves out a fraction of zeros. -/
def dropZeroFraction (cs : List Char) : List Char :=
  match cs.dropWhile (· != '.') with
  | '.' :: zeros =>
    if !zeros.isEmpty && zeros.all (· == '0') then cs.takeWhile (· != '.') else cs
  | _ => cs

/-- A whole number in a text: a sign and digits, or such a text with spaces around it, leading
zeros, a fraction of zeros or single underscores. -/
def wholeNumber? (cs : List Char) : Option Int :=
  match signedDigits? cs with
  | some n => some n
  | none =>
    let trimmed := Text.trim Text.isSpace cs
    let unsigned := match trimmed with
      | '+' :: '-' :: _ => none
      | '+' :: rest => some rest
      | _ => some trimmed
    match unsigned.bind dropLeadingZeros? with
    | some ds =>
      let ds := dropZeroFraction ds
      if ds.contains '_' then (joinDigits? ds).bind signedDigits? else signedDigits? ds
    | none => none

/-- The bound of 64-bit words. -/
def wordBound : Int := (1 <<< 63 : Nat)

/-- A finite number without a fraction, if it is within the bound of 64-bit words. -/
def wholeFloat? (x : Binary64) : Except Problem Int :=
  match x.units? with
  | none => .error .notFinite
  | some u =>
    if u % Magnitude.unitsPerOne != 0 then .error .intFraction
    else
      let n := u / Magnitude.unitsPerOne
      if -wordBound < n ∧ n < wordBound then .ok n else .error .intTooLarge

/-- A whole number, a flag, a numeral of a whole number, or a number without a fraction. -/
def int : Check Int := fun v =>
  match written? v with
  | some none => .problem .intParsing
  | some (some s) => match wholeNumber? s.toList with
    | some n => .ok n
    | none => .problem .intParsing
  | none => match v with
    | .int n => .ok n
    | .flag b => .ok (Value.flagInt b)
    | .float x => match wholeFloat? x with
      | .ok n => .ok n
      | .error p => .problem p
    | _ => .problem .intType

/-- A whole number that is at least `least`. -/
def atLeast (least : Int) : Check Int := fun v =>
  (int v).andThen fun n => if least ≤ n then .ok n else .problem (.tooSmall least)

/-! ## Flags -/

def falseWords : List String := ["0", "f", "n", "no", "off", "false"]

def trueWords : List String := ["1", "t", "y", "on", "yes", "true"]

/-- The flag that a whole number stands for. -/
def flagOfInt (n : Int) : Checked Bool :=
  if n = 0 then .ok false else if n = 1 then .ok true else .problem .flagParsing

/-- A flag, one of the words for it in any case, or zero or one. -/
def flag : Check Bool := fun v =>
  match written? v with
  | some none => .problem .flagParsing
  | some (some s) =>
    let word := String.ofList (Numeral.foldCase s.toList)
    if falseWords.contains word then .ok false
    else if trueWords.contains word then .ok true
    else .problem .flagParsing
  | none => match v with
    | .flag b => .ok b
    | .int n => if -wordBound ≤ n ∧ n < wordBound then flagOfInt n else .problem .flagType
    | .float x => match wholeFloat? x with
      | .ok n => flagOfInt n
      | .error _ => .problem .flagType
    | _ => .problem .flagType

/-! ## Maps -/

/-- The step to the value under a key. -/
def keyStep : Value → Step
  | .text s => .field s
  | .int n => if -wordBound ≤ n ∧ n < wordBound then .index n else .field (toString n)
  | .flag b => .index (Value.flagInt b)
  | v => .field v.quoted

/-- The entries of a map with texts as keys, in their order. -/
def textEntries {α : Type} (check : Check α) : List (Value × Value) → Checked (List (String × α))
  | [] => .ok []
  | (k, v) :: rest =>
    let key := ((text k).under (.field "[key]")).under (keyStep k)
    let value := (check v).under (keyStep k)
    ((key.both value).both (textEntries check rest)).map fun p => p.1 :: p.2

/-- A map with texts as keys. Of several keys with the same text the last wins. -/
def textMap {α : Type} (check : Check α) : Check (List (String × α))
  | .map entries => (textEntries check entries).map Named.ofPairs
  | _ => .problem .mapType

end EntitySelection.Schema.Check
