import TwoWay.Number.Reading

/-!
# Moments

A value may be written as a day, a time of day, or a point in time. A moment keeps the way
it is written. What is written like one is none when the calendar has no such day or the
clock no such time.
-/

namespace TwoWay.Settings

inductive Moment where
  | day (text : String)
  | point (text : String)
  | time (text : String)
  deriving DecidableEq, Repr

namespace Moment

def typeName : Moment → String
  | .day _ => "datetime.date"
  | .point _ => "datetime.datetime"
  | .time _ => "datetime.time"

def text : Moment → String
  | .day t | .point t | .time t => t

end Moment

/-- What the calendar or the clock has not. -/
inductive MomentFault where
  | year (year : Nat)
  | month
  | day
  | hour
  | minute
  | second
  deriving DecidableEq, Repr

namespace MomentFault

def message : MomentFault → String
  | .year y => "year " ++ toString y ++ " is out of range"
  | .month => "month must be in 1..12"
  | .day => "day is out of range for month"
  | .hour => "hour must be in 0..23"
  | .minute => "minute must be in 0..59"
  | .second => "second must be in 0..59"

end MomentFault

def isLeapYear (year : Nat) : Bool := year % 4 = 0 && (year % 100 != 0 || year % 400 = 0)

def daysIn (year month : Nat) : Nat :=
  match month with
  | 2 => if isLeapYear year then 29 else 28
  | 4 | 6 | 9 | 11 => 30
  | _ => 31

/-- What is wrong with a day of the calendar. Years have at most four digits. -/
def dayFault? (year month day : Nat) : Option MomentFault :=
  if year = 0 || 9999 < year then some (.year year)
  else if month = 0 || 12 < month then some .month
  else if day = 0 || daysIn year month < day then some .day
  else none

/-- What is wrong with a time of day. -/
def timeFault? (hour minute second : Nat) : Option MomentFault :=
  if 23 < hour then some .hour
  else if 59 < minute then some .minute
  else if 59 < second then some .second
  else none

/-- A number of so many digits, and what follows it. -/
def readDigits? (width : Nat) (cs : List Char) : Option (Nat × List Char) :=
  let digits := cs.take width
  if digits.length = width && digits.all Char.isDigit then
    some (digitsValue digits, cs.drop width)
  else none

/-- What follows a character, if a text starts with it. -/
def readMark? (mark : Char) : List Char → Option (List Char)
  | [] => none
  | c :: rest => if c = mark then some rest else none

/-- What follows a time of day with seconds and, it may be, a fraction of them. -/
def readClock? (cs : List Char) : Option (List Char) := do
  let (hour, rest) ← readDigits? 2 cs
  let (minute, rest) ← readDigits? 2 (← readMark? ':' rest)
  let (second, rest) ← readDigits? 2 (← readMark? ':' rest)
  if (timeFault? hour minute second).isSome then none
  else match rest with
    | '.' :: c :: more => if c.isDigit then some (more.dropWhile Char.isDigit) else some rest
    | _ => some rest

/-- What follows the distance from the common time, if it stands there. -/
def readOffset (cs : List Char) : List Char :=
  match cs with
  | 'Z' :: rest | 'z' :: rest => rest
  | '+' :: rest | '-' :: rest =>
    let distance := do
      let (hour, rest) ← readDigits? 2 rest
      let (minute, rest) ← readDigits? 2 (← readMark? ':' rest)
      if (timeFault? hour minute 0).isSome then none else some rest
    distance.getD cs
  | _ => cs

/-- What follows the time of a point in time, if it stands there. -/
def readTimeOfDay? (cs : List Char) : Option (List Char) :=
  match cs with
  | c :: rest =>
    if c = 'T' || c = 't' || c = ' ' then (readClock? rest).map readOffset else none
  | [] => none

/-- A moment at the start of a text, and what follows it. `none` is a day that the calendar
has not. -/
def readMoment? (cs : List Char) : Option (Option Moment × List Char) :=
  let written (rest : List Char) := String.ofList (cs.take (cs.length - rest.length))
  let dated := do
    let (year, rest) ← readDigits? 4 cs
    let (month, rest) ← readDigits? 2 (← readMark? '-' rest)
    let (day, rest) ← readDigits? 2 (← readMark? '-' rest)
    if month = 0 || 12 < month || day = 0 || 31 < day then none
    else
      let found (m : Moment) := if (dayFault? year month day).isSome then none else some m
      match readTimeOfDay? rest with
      | some rest => return (found (.point (written rest)), rest)
      | none => return (found (.day (written rest)), rest)
  dated.orElse fun _ => (readClock? cs).map fun rest => (some (.time (written rest)), rest)

end TwoWay.Settings
