import EntitySelection.Yaml.Character
import EntitySelection.Yaml.Moment

/-!
# Tags

A tag says what a node stands for. A plain scalar without a tag gets one by its form: the words
for null and for flags, whole numbers, numbers with a point, moments, and the marks of a merge
and of a default; all else is text.
-/

namespace EntitySelection.Yaml

/-- What a node stands for. -/
inductive Tag where
  | null
  | flag
  | int
  | float
  | binary
  | moment
  | text
  | sequence
  | mapping
  /-- A set of keys. -/
  | set
  /-- A list of pairs of a key and a value. -/
  | pairs
  /-- The key under which a mapping takes over entries of others. -/
  | merge
  /-- The key of the default value of a mapping. -/
  | default
  | unknown
  deriving DecidableEq, Repr

namespace Tag

/-- The standard tags by what follows their common address. -/
def standard : List (String × Tag) := [
  ("null", null), ("bool", flag), ("int", int), ("float", float), ("binary", binary),
  ("timestamp", moment), ("str", text), ("seq", sequence), ("map", mapping), ("set", set),
  ("omap", pairs), ("pairs", pairs), ("merge", merge), ("value", default)]

/-- The common address of the standard tags. -/
def address : String := "tag:yaml.org,2002:"

/-- The tag of an address. -/
def ofAddress (s : String) : Tag :=
  ((standard.find? fun p => address ++ p.1 == s).map (·.2)).getD unknown

/-! ## Forms of plain scalars -/

open Numeral (isAsciiDigit)

def nullWords : List String := ["", "~", "null", "Null", "NULL"]

def flagWords : List String := [
  "yes", "Yes", "YES", "no", "No", "NO", "true", "True", "TRUE", "false", "False", "FALSE",
  "on", "On", "ON", "off", "Off", "OFF"]

/-- A digit or a separator between digits. -/
def isDigitOrSeparator (c : Char) : Bool := isAsciiDigit c || c == '_'

/-- At least one character, all of a class. -/
def someOf (accepts : Char → Bool) (cs : List Char) : Bool := !cs.isEmpty && cs.all accepts

/-- Digits and separators that start with a digit. -/
def isDigits (cs : List Char) : Bool := (cs.head?.any isAsciiDigit) && cs.all isDigitOrSeparator

/-- A number below sixty. -/
def isSixtieth : List Char → Bool
  | [d] => isAsciiDigit d
  | [a, b] => '0' ≤ a && a ≤ '5' && isAsciiDigit b
  | _ => false

/-- The pieces of a text between colons. -/
def colonPieces (cs : List Char) : List (List Char) :=
  cs.foldr (fun c parts => match parts with
    | [] => if c = ':' then [[], []] else [[c]]
    | p :: ps => if c = ':' then [] :: p :: ps else (c :: p) :: ps) [[]]

/-- Digits with at least one number below sixty after a colon. -/
def isSexagesimal (isFirst : List Char → Bool) (cs : List Char) : Bool :=
  match colonPieces cs with
  | first :: rest => isFirst first && !rest.isEmpty && rest.all isSixtieth
  | [] => false

/-- A whole number without a sign: binary, octal, decimal, hexadecimal or sexagesimal. -/
def isUnsignedInt (cs : List Char) : Bool :=
  let isDecimal (cs : List Char) : Bool := isDigits cs && cs.head? != some '0'
  match cs with
  | ['0'] => true
  | '0' :: 'b' :: ds => someOf (fun c => c == '0' || c == '1' || c == '_') ds
  | '0' :: 'x' :: ds => someOf (fun c => (Text.hexValue? c).isSome || c == '_') ds
  | '0' :: ds => someOf (fun c => ('0' ≤ c && c ≤ '7') || c == '_') ds
  | cs => isDecimal cs || isSexagesimal isDecimal cs

def isInt (cs : List Char) : Bool := isUnsignedInt (Numeral.splitSign cs).2

/-- Nothing, or an exponent with a sign. -/
def isExponent : List Char → Bool
  | [] => true
  | e :: sign :: ds =>
    (e == 'e' || e == 'E') && (sign == '+' || sign == '-') && someOf isAsciiDigit ds
  | _ => false

/-- A number with a point: with digits before it, without digits before it, or sexagesimal. Only
with digits before it can it have a sign. -/
def isDecimalFloat (cs : List Char) : Bool :=
  let body := (Numeral.splitSign cs).2
  let whole := body.takeWhile (· != '.')
  match body.drop whole.length with
  | _ :: tail =>
    let exponent := tail.dropWhile isDigitOrSeparator
    if whole.isEmpty then
      cs.length == body.length && (tail.head?.any isAsciiDigit) && isExponent exponent
    else
      (isDigits whole && isExponent exponent) || (isSexagesimal isDigits whole && exponent.isEmpty)
  | [] => false

def infinityWords : List String := [".inf", ".Inf", ".INF"]

def nanWords : List String := [".nan", ".NaN", ".NAN"]

def isFloat (cs : List Char) : Bool :=
  isDecimalFloat cs || infinityWords.contains (String.ofList (Numeral.splitSign cs).2) ||
    nanWords.contains (String.ofList cs)

/-- A text without a line feed at its end. -/
def dropLineFeed (cs : List Char) : List Char :=
  if 1 < cs.length && cs.getLast? = some '\n' then cs.dropLast else cs

/-- The tag of a plain scalar. A line feed at its end does not count. -/
def ofPlain (s : String) : Tag :=
  let cs := dropLineFeed s.toList
  let word := String.ofList cs
  if flagWords.contains word then flag
  else if isFloat cs then float
  else if isInt cs then int
  else if word = "<<" then merge
  else if nullWords.contains word then null
  else if MomentText.isPlain cs then moment
  else if word = "=" then default
  else text

end Tag

end EntitySelection.Yaml
