import EntitySelection.Value.Number

/-!
# Faults of YAML texts

A text that breaks the rules of YAML is malformed, and nothing more is said about it. A scalar
that is tagged as a number, a flag or a moment can still fail to be one; such faults are told
apart.
-/

namespace EntitySelection

/-- Which part of a moment does not exist. -/
inductive CalendarFault where
  | year
  | month
  | day
  | hour
  | minute
  | second
  /-- An offset of that many minutes reaches a day. -/
  | offset (minutes : Int)
  deriving DecidableEq, Repr

namespace CalendarFault

/-- Whole days of an offset, and the seconds beyond them. -/
def offsetSpan (minutes : Int) : Int × Int := (minutes.fdiv 1440, minutes.fmod 1440 * 60)

def offsetText (minutes : Int) : String :=
  let (days, seconds) := offsetSpan minutes
  let dayPart := if days = 0 then [] else ["days=" ++ toString days]
  let secondPart := if seconds = 0 then [] else ["seconds=" ++ toString seconds]
  "datetime.timedelta(" ++ Value.joined ", " (dayPart ++ secondPart) ++ ")"

def message : CalendarFault → String
  | year => "year 0 is out of range"
  | month => "month must be in 1..12"
  | day => "day is out of range for month"
  | hour => "hour must be in 0..23"
  | minute => "minute must be in 0..59"
  | second => "second must be in 0..59"
  | offset minutes =>
    "offset must be a timedelta strictly between -timedelta(hours=24) and " ++
      "timedelta(hours=24), not " ++ offsetText minutes ++ "."

end CalendarFault

namespace Yaml

/-- Why a text has no value. -/
inductive Fault where
  /-- The text breaks a rule of YAML. -/
  | malformed
  /-- An escape stands for no character. -/
  | codePoint (n : Nat)
  /-- A number without a single character. -/
  | emptyNumber
  /-- A text that is no whole number in a base. -/
  | notWhole (base : Nat) (text : String)
  | number (fault : NumberFault)
  /-- A text that is no word for a flag. -/
  | notFlag (word : String)
  /-- A text tagged as a moment that is none. -/
  | notMoment
  | calendar (fault : CalendarFault)

namespace Fault

/-- Code points from here on do not fit a word. -/
def wordLimit : Nat := 1 <<< 31

/-- The length to which a text is shown that is no whole number. -/
def shownLength : Nat := 200

def message : Fault → String
  | malformed => "malformed YAML"
  | codePoint n =>
    if n < wordLimit then "chr() arg not in range(0x110000)"
    else "Python int too large to convert to C int"
  | emptyNumber => "string index out of range"
  | notWhole base text =>
    "invalid literal for int() with base " ++ toString base ++ ": " ++
      String.ofList ((Text.quoted text).toList.take shownLength)
  | number fault => fault.message
  | notFlag word => word
  | notMoment => "'NoneType' object has no attribute 'groupdict'"
  | calendar fault => fault.message

end Fault

/-- The failure of a text that breaks a rule of YAML. -/
def malformed {α : Type} : Except Fault α := .error .malformed

end Yaml

end EntitySelection
