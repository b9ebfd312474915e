/-!
# Moments

A day of the calendar, or a time on it. A time may have an offset from universal time; two such
times are the same moment when they fall on the same microsecond of universal time.
-/

namespace EntitySelection

/-- A day of the calendar. -/
structure Day where
  year : Nat
  month : Nat
  day : Nat
  deriving DecidableEq, Repr

namespace Day

def isLeap (year : Nat) : Bool := year % 4 == 0 && (year % 100 != 0 || year % 400 == 0)

def daysInMonth (year month : Nat) : Nat :=
  if month = 2 then (if isLeap year then 29 else 28)
  else if month = 4 || month = 6 || month = 9 || month = 11 then 30
  else 31

/-- The days of the years before. -/
def daysBeforeYear (year : Nat) : Nat :=
  let y := year - 1
  y * 365 + y / 4 - y / 100 + y / 400

/-- The number of a day, counted from the start of the calendar. -/
def ordinal (d : Day) : Nat :=
  (List.range (d.month - 1)).foldl (fun n m => n + daysInMonth d.year (m + 1))
    (daysBeforeYear d.year) + d.day

end Day

/-- A day, or a time of a day in microseconds, with an offset in minutes if it has one. -/
inductive Moment where
  | day (day : Day)
  | time (day : Day) (microseconds : Nat) (offset : Option Int)
  deriving DecidableEq, Repr

namespace Moment

/-- The microsecond of universal time at which a time with an offset falls. -/
def instant (d : Day) (microseconds : Nat) (offset : Int) : Int :=
  d.ordinal * 86400000000 + microseconds - offset * 60000000

/-- Whether two moments are the same. -/
def same : Moment → Moment → Bool
  | day a, day b => a == b
  | time a m none, time b n none => a == b && m == n
  | time a m (some o), time b n (some p) => instant a m o == instant b n p
  | _, _ => false

/-- A number with at least `width` digits. -/
def padded (width n : Nat) : String :=
  let ds := toString n
  String.ofList (List.replicate (width - ds.length) '0') ++ ds

def dayText (d : Day) : String := padded 4 d.year ++ "-" ++ padded 2 d.month ++ "-" ++ padded 2 d.day

def text : Moment → String
  | day d => dayText d
  | time d m _ =>
    let s := m / 1000000
    dayText d ++ " " ++ padded 2 (s / 3600) ++ ":" ++ padded 2 (s / 60 % 60) ++ ":" ++
      padded 2 (s % 60)

end Moment

end EntitySelection
