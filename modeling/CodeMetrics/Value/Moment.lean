/-!
# Dates and times

Settings files can hold dates, times of day and both together, with or without
an offset from universal time.

* `Moment` — a date, a time, or a date with a time;
* `Moment.text` — the plain form, as in `1979-05-27 07:32:00+01:00`;
* `Moment.display` — the form that spells out what sort of value it is;
* `Moment.levels` — how deep values lie inside one another there.
-/

namespace CodeMetrics

/-- A day of the calendar. -/
structure Date where
  year : Nat
  month : Nat
  day : Nat
deriving Repr, DecidableEq, Inhabited

/-- A time of day. -/
structure Time where
  hour : Nat
  minute : Nat
  second : Nat
  micro : Nat := 0
deriving Repr, DecidableEq, Inhabited

/-- A date, a time of day, or both with an optional offset in minutes. -/
inductive Moment where
  | date (d : Date)
  | time (t : Time)
  | dateTime (d : Date) (t : Time) (offset? : Option Int)
deriving Repr, DecidableEq, Inhabited

/-- A number with zeros in front up to a width. -/
def padded (width n : Nat) : String :=
  let digits := toString n
  String.ofList (List.replicate (width - digits.length) '0') ++ digits

namespace Date

/-- Whether a year has a 29th of February. -/
def isLeap (year : Nat) : Bool := (year % 4 == 0 && year % 100 != 0) || year % 400 == 0

/-- The number of days of a month. -/
def daysIn (year month : Nat) : Nat :=
  match month with
  | 2 => if isLeap year then 29 else 28
  | 4 | 6 | 9 | 11 => 30
  | _ => 31

/-- Whether the calendar has the day; it begins with the year one. -/
def isValid (d : Date) : Bool := 1 ≤ d.year && d.day ≤ daysIn d.year d.month

/-- The plain form of a date. -/
def text (d : Date) : String := s!"{padded 4 d.year}-{padded 2 d.month}-{padded 2 d.day}"

end Date

namespace Time

/-- The plain form of a time; a fraction of a second is written only if there is one. -/
def text (t : Time) : String :=
  s!"{padded 2 t.hour}:{padded 2 t.minute}:{padded 2 t.second}"
    ++ (if t.micro = 0 then "" else "." ++ padded 6 t.micro)

/-- The parts of a time from the hour on, without zeros at the end of what may be left out. -/
def parts (t : Time) : List Nat :=
  if t.micro ≠ 0 then [t.hour, t.minute, t.second, t.micro]
  else if t.second ≠ 0 then [t.hour, t.minute, t.second]
  else [t.hour, t.minute]

end Time

namespace Moment

/-- The plain form of an offset. -/
def offsetText (minutes : Int) : String :=
  let sign := if minutes < 0 then "-" else "+"
  s!"{sign}{padded 2 (minutes.natAbs / 60)}:{padded 2 (minutes.natAbs % 60)}"

/-- The plain form. -/
def text : Moment → String
  | date d => d.text
  | time t => t.text
  | dateTime d t offset? => d.text ++ " " ++ t.text ++ (offset?.map offsetText).getD ""

/-- The name of the sort of value. -/
def sort : Moment → String
  | date _ => "datetime.date"
  | time _ => "datetime.time"
  | dateTime _ _ _ => "datetime.datetime"

/-- An offset spelled out; a negative one is counted from the day before. -/
def offsetDisplay (minutes : Int) : String :=
  if minutes = 0 then "datetime.timezone.utc"
  else if 0 < minutes then s!"datetime.timezone(datetime.timedelta(seconds={minutes * 60}))"
  else s!"datetime.timezone(datetime.timedelta(days=-1, seconds={86400 + minutes * 60}))"

/-- The form that spells out what sort of value it is. -/
def display (m : Moment) : String :=
  let listed (ns : List Nat) : List String := ns.map toString
  let parts : List String :=
    match m with
    | date d => listed [d.year, d.month, d.day]
    | time t => listed t.parts
    | dateTime d t offset? =>
        listed ([d.year, d.month, d.day] ++ t.parts)
          ++ (offset?.map (fun o => "tzinfo=" ++ offsetDisplay o)).toList
  m.sort ++ "(" ++ ", ".intercalate parts ++ ")"

/-- How deep values lie inside a moment that is spelled out: an offset is a value, and holds another
one unless it is zero. -/
def levels : Moment → Nat
  | dateTime _ _ (some offset) => if offset = 0 then 1 else 2
  | _ => 0

end Moment

end CodeMetrics
