import EntitySelection.Text.Printable

/-!
# Quoted text

A text in quotation marks, for messages and for the text of a collection. Apostrophes enclose
it, unless it holds an apostrophe and no quotation mark. The enclosing mark, the backslash and
every character that is not printable are escaped.
-/

namespace EntitySelection.Text

/-- The last `width` hexadecimal digits of a number. -/
def hexDigits (width n : Nat) : List Char :=
  let ds := Nat.toDigits 16 n
  List.replicate (width - ds.length) '0' ++ ds

/-- The mark that encloses a text. -/
def quotationMark (cs : List Char) : Char :=
  if cs.contains '\'' && !cs.contains '"' then '"' else '\''

/-- Escapes that name a control character. -/
def controlEscape? (c : Char) : Option (List Char) :=
  if c = '\t' then some ['\\', 't']
  else if c = '\n' then some ['\\', 'n']
  else if c = '\r' then some ['\\', 'r']
  else none

/-- A code point as an escape of the shortest fitting width. -/
def codePointEscape (n : Nat) : List Char :=
  if n < 0x100 then ['\\', 'x'] ++ hexDigits 2 n
  else if n < 0x10000 then ['\\', 'u'] ++ hexDigits 4 n
  else ['\\', 'U'] ++ hexDigits 8 n

def escapeChar (mark c : Char) : List Char :=
  if c = mark || c = '\\' then ['\\', c]
  else match controlEscape? c with
    | some e => e
    | none => if isPrintable c then [c] else codePointEscape c.toNat

def quotedChars (cs : List Char) : List Char :=
  let mark := quotationMark cs
  mark :: (cs.flatMap (escapeChar mark) ++ [mark])

/-- The text in quotation marks. -/
def quoted (s : String) : String := String.ofList (quotedChars s.toList)

/-- Bytes in quotation marks after a `b`: printable ASCII as it is, all else escaped. -/
def quotedBytes (bs : List UInt8) : String :=
  let cs := bs.map fun b => Char.ofNat b.toNat
  let mark := quotationMark cs
  let escape (c : Char) : List Char :=
    if c = mark || c = '\\' then ['\\', c]
    else match controlEscape? c with
      | some e => e
      | none => if 0x20 ≤ c.toNat && c.toNat < 0x7f then [c] else codePointEscape c.toNat
  String.ofList ('b' :: mark :: (cs.flatMap escape ++ [mark]))

end EntitySelection.Text
