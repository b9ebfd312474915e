import EntitySelection.Json.Fault
import EntitySelection.Numeral
import EntitySelection.Text.Line
import EntitySelection.Value.Key

/-!
# Reading JSON

`read` reads a text as JSON. `NaN` and the two infinities are numbers too, and the last entry of
a key wins. A half of a surrogate pair without the other half is read as U+FFFD. A whole number may
have any number of digits: a runtime's guard against too many of them is not modelled.

A reader takes what is left of the text and gives a result and what is left after it. Where it
stops, it says how much was left. `fuel` bounds the depth of calls, of which there are at most
two for each character.
-/

namespace EntitySelection.Json

/-- A problem, and the number of characters from it to the end of the text. -/
structure Stop where
  problem : Problem
  left : Nat

/-- Stops where `rest` is left. -/
def stop {α : Type} (p : Problem) (rest : List Char) : Except Stop α := .error ⟨p, rest.length⟩

def isSpace (c : Char) : Bool := c == ' ' || c == '\t' || c == '\n' || c == '\r'

def skipSpace (cs : List Char) : List Char := cs.dropWhile isSpace

/-! ## Strings -/

/-- The character that a letter stands for after a backslash. -/
def namedEscape? (c : Char) : Option Char :=
  match c with
  | '"' => some '"'
  | '\\' => some '\\'
  | '/' => some '/'
  | 'b' => some '\x08'
  | 'f' => some '\x0c'
  | 'n' => some '\n'
  | 'r' => some '\r'
  | 't' => some '\t'
  | _ => none

/-- Four hexadecimal digits and what is left after them, which must not be nothing. -/
def codeUnit? : List Char → Option (Nat × List Char)
  | a :: b :: c :: d :: e :: rest => (Text.hexNumber? [a, b, c, d]).map (·, e :: rest)
  | _ => none

def isHighSurrogate (n : Nat) : Bool := 0xd800 ≤ n && n ≤ 0xdbff

def isLowSurrogate (n : Nat) : Bool := 0xdc00 ≤ n && n ≤ 0xdfff

/-- The character of a code unit that has no partner. -/
def loneUnit (n : Nat) : Char :=
  if isHighSurrogate n || isLowSurrogate n then '\ufffd' else Char.ofNat n

/-- The second half of a surrogate pair, if it follows. -/
def partner? (cs : List Char) : Except Stop (Option (Nat × List Char)) :=
  match cs with
  | '\\' :: 'u' :: rest =>
    if rest.length < 5 then .ok none
    else match codeUnit? rest with
      | none => stop .codeEscape ('u' :: rest)
      | some (n, rest) => .ok (if isLowSurrogate n then some (n, rest) else none)
  | _ => .ok none

/-- A character given by its code, after the `u`. -/
def codeEscape (cs : List Char) : Except Stop (Char × List Char) :=
  match codeUnit? cs with
  | none => stop .codeEscape ('u' :: cs)
  | some (high, rest) =>
    if isHighSurrogate high then do
      match ← partner? rest with
      | some (low, rest) =>
        .ok (Char.ofNat (0x10000 + (high - 0xd800) * 0x400 + (low - 0xdc00)), rest)
      | none => .ok (loneUnit high, rest)
    else .ok (loneUnit high, rest)

/-- The rest of a string after its opening mark, where `opening` characters are left. -/
def string (opening : Nat) : Nat → List Char → Except Stop (List Char × List Char)
  | 0, _ => .error ⟨.unterminated, opening⟩
  | _ + 1, [] => .error ⟨.unterminated, opening⟩
  | _ + 1, '"' :: rest => .ok ([], rest)
  | _ + 1, ['\\'] => .error ⟨.unterminated, opening⟩
  | fuel + 1, '\\' :: 'u' :: rest => do
    let (c, rest) ← codeEscape rest
    let (cs, rest) ← string opening fuel rest
    .ok (c :: cs, rest)
  | fuel + 1, '\\' :: e :: rest =>
    match namedEscape? e with
    | some c => do
      let (cs, rest) ← string opening fuel rest
      .ok (c :: cs, rest)
    | none => stop .escape ('\\' :: e :: rest)
  | fuel + 1, c :: rest =>
    if c.toNat < 0x20 then stop .controlCharacter (c :: rest)
    else do
      let (cs, rest) ← string opening fuel rest
      .ok (c :: cs, rest)

/-- A string after its opening mark. -/
def text (cs : List Char) : Except Stop (String × List Char) := do
  let (s, rest) ← string (cs.length + 1) (cs.length + 1) cs
  .ok (String.ofList s, rest)

/-! ## Numbers -/

open Numeral (isAsciiDigit digitsValue)

/-- The digits of a whole number: a single zero, or digits that do not start with one. -/
def wholeDigits (cs : List Char) : List Char :=
  match cs with
  | '0' :: _ => ['0']
  | _ => cs.takeWhile isAsciiDigit

/-- A point and the digits after it, if there are any. -/
def fractionPart (cs : List Char) : List Char :=
  match cs with
  | '.' :: rest =>
    let ds := rest.takeWhile isAsciiDigit
    if ds.isEmpty then [] else '.' :: ds
  | _ => []

/-- An exponent, if it has digits. -/
def exponentPart (cs : List Char) : List Char :=
  match cs with
  | e :: rest =>
    if e == 'e' || e == 'E' then
      let sign := match rest with
        | c :: _ => if c == '+' || c == '-' then [c] else []
        | [] => []
      let ds := (rest.drop sign.length).takeWhile isAsciiDigit
      if ds.isEmpty then [] else e :: sign ++ ds
    else []
  | [] => []

/-- A number: whole, or a fraction if it has a point or an exponent. -/
def number? (cs : List Char) : Option (Value × List Char) :=
  let sign := if cs.head? = some '-' then ['-'] else []
  let body := cs.drop sign.length
  let whole := wholeDigits body
  if whole.isEmpty then none
  else
    let fraction := fractionPart (body.drop whole.length)
    let exponent := exponentPart (body.drop (whole.length + fraction.length))
    let rest := body.drop (whole.length + fraction.length + exponent.length)
    if fraction.isEmpty && exponent.isEmpty then
      some (.int (Binary64.applySign (!sign.isEmpty) (digitsValue 0 whole)), rest)
    else (Numeral.ofChars? (sign ++ whole ++ fraction ++ exponent)).map fun n =>
      (.float n.toBinary64, rest)

/-- The values that are written as words. -/
def words : List (String × Value) := [
  ("null", .null), ("true", .flag true), ("false", .flag false), ("NaN", .float .nan),
  ("Infinity", .float .infinity), ("-Infinity", .float Binary64.infinity.neg)]

/-- The word at the start of a text. -/
def word? (cs : List Char) : Option (Value × List Char) :=
  (words.find? fun w => w.1.toList.isPrefixOf cs).map fun w => (w.2, cs.drop w.1.length)

/-! ## Values -/

mutual

def value : Nat → List Char → Except Stop (Value × List Char)
  | 0, cs => stop .value cs
  | fuel + 1, cs =>
    match cs with
    | '"' :: rest => (text rest).map fun (s, rest) => (.text s, rest)
    | '[' :: rest =>
      match skipSpace rest with
      | ']' :: rest => .ok (.list [], rest)
      | rest => (items fuel rest).map fun (vs, rest) => (.list vs, rest)
    | '\x7b' :: rest =>
      match skipSpace rest with
      | '\x7d' :: rest => .ok (.map [], rest)
      | rest => (members fuel rest).map fun (es, rest) => (.mapOf es, rest)
    | _ => match word? cs <|> number? cs with
      | some r => .ok r
      | none => stop .value cs

/-- The items of a list, up to its end. -/
def items : Nat → List Char → Except Stop (List Value × List Char)
  | 0, cs => stop .value cs
  | fuel + 1, cs => do
    let (v, rest) ← value fuel cs
    match skipSpace rest with
    | ']' :: rest => .ok ([v], rest)
    | ',' :: rest =>
      let (vs, rest) ← items fuel (skipSpace rest)
      .ok (v :: vs, rest)
    | rest => stop .comma rest

/-- The members of an object, up to its end. -/
def members : Nat → List Char → Except Stop (List (Value × Value) × List Char)
  | 0, cs => stop .value cs
  | fuel + 1, cs =>
    match cs with
    | '"' :: rest => do
      let (key, rest) ← text rest
      match skipSpace rest with
      | ':' :: rest =>
        let (v, rest) ← value fuel (skipSpace rest)
        match skipSpace rest with
        | '\x7d' :: rest => .ok ([(.text key, v)], rest)
        | ',' :: rest =>
          let (es, rest) ← members fuel (skipSpace rest)
          .ok ((.text key, v) :: es, rest)
        | rest => stop .comma rest
      | rest => stop .colon rest
    | _ => stop .propertyName cs

end

/-- The value of a whole text. -/
def document (cs : List Char) : Except Stop Value :=
  if cs.head? = some Text.byteOrderMark then stop .byteOrderMark cs
  else do
    let (v, rest) ← value (2 * cs.length + 2) (skipSpace cs)
    match skipSpace rest with
    | [] => .ok v
    | rest => stop .extraData rest

/-- Reads a text. -/
def read (s : String) : Except Fault Value :=
  match document s.toList with
  | .ok v => .ok v
  | .error e => .error (.at s.toList e.problem (s.toList.length - e.left))

end EntitySelection.Json
