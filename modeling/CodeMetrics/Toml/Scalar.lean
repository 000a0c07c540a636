import CodeMetrics.Number.Numeral
import CodeMetrics.Toml.Text
import CodeMetrics.Value.Basic

/-!
# Numbers, dates and times of TOML

* `Toml.moment?` — a date, a time or both at the front of a text;
* `Toml.number?` — a whole number in one of four bases, or a decimal;
* `Toml.scalar` — any of these, or one of the words for what is beyond all numbers.
-/

namespace CodeMetrics.Toml

/-! ## Dates and times -/

/-- Takes two digits between `low` and `high` off the front. -/
def twoDigits? (low high : Nat) : List Char → Option (Nat × List Char)
  | a :: b :: rest =>
      if a.isDigit && b.isDigit then
        let n := Numeral.ofAscii [a, b]
        if low ≤ n && n ≤ high then some (n, rest) else none
      else none
  | _ => none

/-- Takes a given character off the front. -/
def expect? (c : Char) : List Char → Option (List Char)
  | a :: rest => if a = c then some rest else none
  | [] => none

/-- Reads a date, whether or not the calendar has it. -/
def date? : List Char → Option (Date × List Char)
  | a :: b :: c :: d :: rest => do
      if [a, b, c, d].all Char.isDigit then
        let rest ← expect? '-' rest
        let (month, rest) ← twoDigits? 1 12 rest
        let rest ← expect? '-' rest
        let (day, rest) ← twoDigits? 1 31 rest
        return (⟨Numeral.ofAscii [a, b, c, d], month, day⟩, rest)
      else none
  | _ => none

/-- Reads a time of day; digits of the second beyond the sixth are dropped. -/
def time? (cs : List Char) : Option (Time × List Char) := do
  let (hour, rest) ← twoDigits? 0 23 cs
  let rest ← expect? ':' rest
  let (minute, rest) ← twoDigits? 0 59 rest
  let rest ← expect? ':' rest
  let (second, rest) ← twoDigits? 0 59 rest
  let whole : Time := ⟨hour, minute, second, 0⟩
  match rest with
  | '.' :: fraction =>
      let digits := fraction.takeWhile Char.isDigit
      if digits.isEmpty then return (whole, rest)
      let six := digits.take 6
      let micro := Numeral.ofAscii (six ++ List.replicate (6 - six.length) '0')
      return ({ whole with micro }, fraction.dropWhile Char.isDigit)
  | _ => return (whole, rest)

/-- Reads an offset in minutes, if there is one. -/
def offset (cs : List Char) : Option Int × List Char :=
  match cs with
  | 'Z' :: rest => (some 0, rest)
  | 'z' :: rest => (some 0, rest)
  | sign :: rest =>
      if sign = '+' || sign = '-' then
        let parts := do
          let (hours, rest) ← twoDigits? 0 23 rest
          let rest ← expect? ':' rest
          let (minutes, rest) ← twoDigits? 0 59 rest
          return (hours * 60 + minutes, rest)
        match parts with
        | some (n, rest) => (some (if sign = '-' then -(n : Int) else n), rest)
        | none => (none, cs)
      else (none, cs)
  | [] => (none, cs)

/-- Reads a date, a time, or a date with a time. -/
def moment? (cs : List Char) : Option (Moment × List Char) :=
  match date? cs with
  | some (d, rest) =>
      let withTime :=
        match rest with
        | c :: rest => if c = 'T' || c = 't' || c = ' ' then time? rest else none
        | [] => none
      match withTime with
      | some (t, rest) =>
          let (o, rest) := offset rest
          some (.dateTime d t o, rest)
      | none => some (.date d, rest)
  | none => (time? cs).map (fun (t, rest) => (.time t, rest))

/-- Whether the calendar has the date of a moment. -/
def isOnCalendar : Moment → Bool
  | .date d => d.isValid
  | .dateTime d _ _ => d.isValid
  | .time _ => true

/-! ## Numbers -/

/-- Takes digits with single underscores between them off the front, after a first digit. -/
def moreDigits (isDigit : Char → Bool) : List Char → List Char × List Char
  | '_' :: c :: rest =>
      if isDigit c then
        let (ds, rest) := moreDigits isDigit rest
        (c :: ds, rest)
      else ([], '_' :: c :: rest)
  | c :: rest =>
      if isDigit c then
        let (ds, rest) := moreDigits isDigit rest
        (c :: ds, rest)
      else ([], c :: rest)
  | [] => ([], [])

/-- Takes a digit and more digits off the front. -/
def digits? (isDigit : Char → Bool) : List Char → Option (List Char × List Char)
  | c :: rest =>
      if isDigit c then
        let (ds, rest) := moreDigits isDigit rest
        some (c :: ds, rest)
      else none
  | [] => none

/-- The number that digits of a base stand for. -/
def ofBase (base : Nat) (ds : List Char) : Nat :=
  ds.foldl (fun n d => base * n + (hexValue? d).getD 0) 0

/-- Whether the character is a digit of a base up to sixteen. -/
def isDigitOf (base : Nat) (c : Char) : Bool :=
  match hexValue? c with
  | some d => d < base
  | none => false

/-- The base that the letter after a zero stands for. -/
def baseOf? : Char → Option Nat
  | 'x' => some 16
  | 'b' => some 2
  | 'o' => some 8
  | _ => none

/-- Reads a whole number with its base in front. -/
def basedNumber? : List Char → Option (Nat × List Char)
  | '0' :: letter :: rest => do
      let base ← baseOf? letter
      let (ds, rest) ← digits? (isDigitOf base) rest
      return (ofBase base ds, rest)
  | _ => none

/-- Takes the digits in front of the point off: a single zero, or digits that start with another
digit. -/
def wholePart? : List Char → Option (List Char × List Char)
  | '0' :: rest => some (['0'], rest)
  | cs => digits? Char.isDigit cs

/-- Takes a point with digits off the front, if there is one. -/
def fractionPart (cs : List Char) : List Char × List Char :=
  match cs with
  | '.' :: rest =>
      match digits? Char.isDigit rest with
      | some (ds, rest) => (ds, rest)
      | none => ([], cs)
  | _ => ([], cs)

/-- Takes an exponent off the front, if there is one. -/
def exponentPart (cs : List Char) : Option Int × List Char :=
  match cs with
  | c :: rest =>
      if c = 'e' || c = 'E' then
        let (negative, rest) := Numeral.takeSign rest
        match digits? Char.isDigit rest with
        | some (ds, rest) =>
            (some (if negative then -(Numeral.ofAscii ds : Int) else Numeral.ofAscii ds), rest)
        | none => (none, cs)
      else (none, cs)
  | [] => (none, cs)

/-- Reads a decimal number; it is whole if it has neither a fraction nor an exponent. -/
def decimalNumber? (cs : List Char) : Option (Except Fault (Value × List Char)) := do
  let (negative, unsigned) := Numeral.takeSign cs
  let (whole, rest) ← wholePart? unsigned
  let (fraction, rest) := fractionPart rest
  let (exponent?, rest) := exponentPart rest
  if fraction.isEmpty && exponent?.isNone then
    if Numeral.maxDigits < whole.length then
      return .error (.numeralTooLong whole.length)
    let n : Int := Numeral.ofAscii whole
    return .ok (.int (if negative then -n else n), rest)
  let e := exponent?.getD 0 - fraction.length
  return .ok (.float (Binary64.ofDecimal negative (Numeral.ofAscii (whole ++ fraction)) e), rest)

/-- Reads a number. -/
def number? (cs : List Char) : Option (Except Fault (Value × List Char)) :=
  match basedNumber? cs with
  | some (n, rest) => some (.ok (.int n, rest))
  | none => decimalNumber? cs

/-- Reads one of the words for what is beyond all numbers. -/
def beyondNumbers? (cs : List Char) : Option (Value × List Char) :=
  let (negative, rest) := Numeral.takeSign cs
  match rest with
  | 'i' :: 'n' :: 'f' :: rest => some (.float (.infinite negative), rest)
  | 'n' :: 'a' :: 'n' :: rest => some (.float .nan, rest)
  | _ => none

/-- Reads a date, a time or a number. -/
def scalar : Reader Value := fun cs =>
  match moment? cs with
  | some (m, rest) => if isOnCalendar m then .ok (.moment m, rest) else .error .malformed
  | none =>
      match number? cs with
      | some r => r
      | none =>
          match beyondNumbers? cs with
          | some r => .ok r
          | none => .error .malformed

end CodeMetrics.Toml
