import EntitySelection.Numeral
import EntitySelection.Value.Moment
import EntitySelection.Yaml.Fault

/-!
# Moments as text

A day is written as year, month and day with hyphens between them. A time follows it after a
`T` or blanks: hours, minutes and seconds with colons between them, perhaps a fraction, and
perhaps an offset from universal time.
-/

namespace EntitySelection.Yaml

/-- A time as it is written. The offset is in minutes. -/
structure TimeText where
  hour : Nat
  minute : Nat
  second : Nat
  microsecond : Nat
  offset : Option Int
  deriving DecidableEq, Repr

/-- A moment as it is written. -/
structure MomentText where
  year : Nat
  month : Nat
  day : Nat
  time : Option TimeText
  deriving DecidableEq, Repr

namespace MomentText

open Numeral (isAsciiDigit digitsValue)

/-- From `least` to `most` digits: their number and the text after them. -/
def digits? (least most : Nat) (cs : List Char) : Option (Nat × List Char) :=
  let ds := (cs.takeWhile isAsciiDigit).take most
  if ds.length < least then none else some (digitsValue 0 ds, cs.drop ds.length)

/-- The text after a character. -/
def after? (c : Char) : List Char → Option (List Char)
  | [] => none
  | d :: cs => if c = d then some cs else none

def isBlank (c : Char) : Bool := c == ' ' || c == '\t'

/-- What separates a time from its day. -/
def afterDay? : List Char → Option (List Char)
  | [] => none
  | c :: cs =>
    if c = 'T' || c = 't' then some cs
    else if isBlank c then some (cs.dropWhile isBlank)
    else none

/-- The microseconds of a fraction; digits beyond the sixth are left out. -/
def fraction (cs : List Char) : Nat × List Char :=
  match cs with
  | '.' :: cs =>
    let ds := cs.takeWhile isAsciiDigit
    (digitsValue 0 ((ds ++ List.replicate 6 '0').take 6), cs.drop ds.length)
  | cs => (0, cs)

/-- An offset after its sign. -/
def signedOffset? (negative : Bool) (cs : List Char) : Option (Option Int) := do
  let (hours, cs) ← digits? 1 2 cs
  let (minutes, cs) ← match cs with
    | ':' :: cs => digits? 2 2 cs
    | cs => some (0, cs)
  if cs.isEmpty then some (some (Binary64.applySign negative (hours * 60 + minutes))) else none

/-- The offset at the end of a time, if there is one. -/
def offset? (cs : List Char) : Option (Option Int) :=
  if cs.isEmpty then some none
  else
    match cs.dropWhile isBlank with
    | ['Z'] => some (some 0)
    | '+' :: cs => signedOffset? false cs
    | '-' :: cs => signedOffset? true cs
    | _ => none

def time? (cs : List Char) : Option TimeText := do
  let (hour, cs) ← digits? 1 2 cs
  let (minute, cs) ← digits? 2 2 (← after? ':' cs)
  let (second, cs) ← digits? 2 2 (← after? ':' cs)
  let (microsecond, cs) := fraction cs
  some ⟨hour, minute, second, microsecond, ← offset? cs⟩

/-- Reads a moment. -/
def read? (cs : List Char) : Option MomentText := do
  let (year, cs) ← digits? 4 4 cs
  let (month, cs) ← digits? 1 2 (← after? '-' cs)
  let (day, cs) ← digits? 1 2 (← after? '-' cs)
  if cs.isEmpty then some ⟨year, month, day, none⟩
  else some ⟨year, month, day, some (← time? (← afterDay? cs))⟩

/-- Whether a text is a moment without a tag. A day alone then has all its digits. -/
def isPlain (cs : List Char) : Bool :=
  match read? cs with
  | some m => m.time.isSome || cs.length == 10
  | none => false

/-! ## Moments that exist -/

/-- The day of a moment. -/
def toDay (m : MomentText) : Except CalendarFault Day :=
  if m.year = 0 then .error .year
  else if m.month = 0 || 12 < m.month then .error .month
  else if m.day = 0 || Day.daysInMonth m.year m.month < m.day then .error .day
  else .ok ⟨m.year, m.month, m.day⟩

/-- The moment that a text stands for. An offset is checked first. -/
def toMoment (m : MomentText) : Except CalendarFault Moment :=
  match m.time with
  | none => m.toDay.map .day
  | some t => do
    match t.offset with
    | some o => if o.natAbs < 1440 then .ok () else .error (.offset o)
    | none => .ok ()
    let d ← m.toDay
    if 23 < t.hour then .error .hour
    else if 59 < t.minute then .error .minute
    else if 59 < t.second then .error .second
    else
      let seconds := (t.hour * 60 + t.minute) * 60 + t.second
      .ok (.time d (seconds * 1000000 + t.microsecond) t.offset)

end MomentText

end EntitySelection.Yaml
