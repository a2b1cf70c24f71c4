import Typeset.Text.Split

/-!
Dates and times of configuration files. A time may carry its offset from universal time, in minutes.
Dates follow the Gregorian calendar from year 1 to 9999.
-/

namespace Typeset.Config

structure Date where
  year : Nat
  month : Nat
  day : Nat
  deriving DecidableEq

structure TimeOfDay where
  hour : Nat
  minute : Nat
  second : Nat
  microsecond : Nat
  deriving DecidableEq

/-- A time on a day, with the minutes by which it is ahead of universal time if they are known. -/
structure DateTime where
  date : Date
  time : TimeOfDay
  offset : Option Int
  deriving DecidableEq

def padded (width n : Nat) : String :=
  let ds := Nat.toDigits 10 n
  String.ofList (List.replicate (width - ds.length) '0' ++ ds)

namespace Date

def isLeap (year : Nat) : Bool := year % 4 == 0 && (year % 100 != 0 || year % 400 == 0)

def daysInMonth (year month : Nat) : Nat :=
  if month = 2 then (if isLeap year then 29 else 28)
  else if month ∈ [4, 6, 9, 11] then 30 else 31

def isValid (d : Date) : Bool :=
  1 ≤ d.year && d.year ≤ 9999 && 1 ≤ d.month && d.month ≤ 12 && 1 ≤ d.day &&
    d.day ≤ daysInMonth d.year d.month

/-- The days before a day, from the first day of year 1. -/
def ordinal (d : Date) : Nat :=
  let y := d.year - 1
  y * 365 + y / 4 - y / 100 + y / 400 +
    (List.range (d.month - 1)).foldl (fun n m => n + daysInMonth d.year (m + 1)) 0 + d.day

def toText (d : Date) : String := padded 4 d.year ++ "-" ++ padded 2 d.month ++ "-" ++ padded 2 d.day

def parts (d : Date) : List Nat := [d.year, d.month, d.day]

end Date

namespace TimeOfDay

/-- Whether the time exists; there are no leap seconds. -/
def isValid (t : TimeOfDay) : Bool :=
  t.hour < 24 && t.minute < 60 && t.second < 60 && t.microsecond < 1000000

/-- Hour, minute and second with colons between them, and the fraction if there is one. -/
def toText (t : TimeOfDay) : String :=
  padded 2 t.hour ++ ":" ++ padded 2 t.minute ++ ":" ++ padded 2 t.second ++
    (if t.microsecond = 0 then "" else "." ++ padded 6 t.microsecond)

/-- The parts of the literal; what is zero at the end is left out, except the minute. -/
def parts (t : TimeOfDay) : List Nat :=
  if t.microsecond ≠ 0 then [t.hour, t.minute, t.second, t.microsecond]
  else if t.second ≠ 0 then [t.hour, t.minute, t.second]
  else [t.hour, t.minute]

end TimeOfDay

namespace DateTime

def offsetText (m : Int) : String :=
  (if m < 0 then "-" else "+") ++ padded 2 (m.natAbs / 60) ++ ":" ++ padded 2 (m.natAbs % 60)

def toText (separator : String) (t : DateTime) : String :=
  t.date.toText ++ separator ++ t.time.toText ++ (t.offset.map offsetText).getD ""

def universalMinutes (t : DateTime) (offset : Int) : Int :=
  (t.date.ordinal * 1440 + t.time.hour * 60 + t.time.minute : Nat) - offset

/-- Whether two times are the same instant; one with and one without an offset never are. -/
def sameInstant (s t : DateTime) : Bool :=
  match s.offset, t.offset with
  | none, none => s == t
  | some a, some b =>
    s.universalMinutes a == t.universalMinutes b && s.time.second == t.time.second &&
      s.time.microsecond == t.time.microsecond
  | _, _ => false

end DateTime

namespace Literal

def numbers (ns : List Nat) : String := ", ".intercalate (ns.map toString)

def ofDate (d : Date) : String := "datetime.date(" ++ numbers d.parts ++ ")"

def ofTime (t : TimeOfDay) : String := "datetime.time(" ++ numbers t.parts ++ ")"

/-- The literal of an offset. A negative one counts forward from the day before. -/
def ofOffset (m : Int) : String :=
  if m = 0 then "datetime.timezone.utc"
  else
    let delta :=
      if m < 0 then "days=-1, seconds=" ++ toString ((m + 1440) * 60) else
        "seconds=" ++ toString (m * 60)
    let delta := if m < 0 ∧ m + 1440 = 0 then "days=-1" else delta
    "datetime.timezone(datetime.timedelta(" ++ delta ++ "))"

def ofDateTime (t : DateTime) : String :=
  "datetime.datetime(" ++ numbers (t.date.parts ++ t.time.parts) ++
    (match t.offset with
      | none => ""
      | some m => ", tzinfo=" ++ ofOffset m) ++ ")"

end Literal

end Typeset.Config
