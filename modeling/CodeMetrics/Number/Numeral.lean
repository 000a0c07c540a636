import CodeMetrics.Number.Binary64
import CodeMetrics.Text.Digit
import CodeMetrics.Text.Quoted

/-!
# Numerals

Numbers as people write them: blanks around, a sign, the decimal digits of any
script, single underscores between digits.

* `Numeral.readInt` — a whole number;
* `Numeral.readFloat` — a decimal with or without an exponent, an infinity or a NaN.
-/

namespace CodeMetrics

/-- Why a text is no numeral. -/
inductive NumeralFault where
  | notInteger (text : String)
  | notFloat (text : String)
  /-- More digits than are converted. -/
  | tooLong (digits : Nat)
deriving Repr, DecidableEq, Inhabited

/-- The wording of a refusal; only the beginning of a long text is quoted. -/
def NumeralFault.message : NumeralFault → String
  | notInteger text =>
      "invalid literal for int() with base 10: "
        ++ String.ofList ((Text.quote text).toList.take 200)
  | notFloat text => "could not convert string to float: " ++ Text.quote text
  | tooLong digits =>
      s!"Exceeds the limit (4300 digits) for integer string conversion: value has {digits} digits; "
        ++ "use sys.set_int_max_str_digits() to increase the limit"

namespace Numeral

/-- The longest whole number that is converted. -/
def maxDigits : Nat := 4300

/-- Takes a sign off a text; true stands for a minus. -/
def takeSign : List Char → Bool × List Char
  | '-' :: rest => (true, rest)
  | '+' :: rest => (false, rest)
  | cs => (false, cs)

/-- The digits of a text that holds nothing but digits and single underscores between them. -/
def digitRun : List Char → Option (List Nat)
  | [] => none
  | [c] => (Text.digit? c).map ([·])
  | c :: '_' :: rest => do
      let d ← Text.digit? c
      return d :: (← digitRun rest)
  | c :: rest => do
      let d ← Text.digit? c
      return d :: (← digitRun rest)

/-- The number that decimal digits stand for. -/
def ofDigits (ds : List Nat) : Nat := ds.foldl (fun n d => 10 * n + d) 0

/-- Whether the character can stand in a whole number behind its sign. -/
def isNumeralChar (c : Char) : Bool := c = '_' || (Text.digit? c).isSome

/-- Reads a whole number.  Digits are counted before what follows them is looked at. -/
def readInt (s : String) : Except NumeralFault Int :=
  let (negative, rest) := takeSign (Text.trimBlanks s.toList)
  match digitRun (rest.takeWhile isNumeralChar) with
  | none => .error (.notInteger s)
  | some ds =>
      if maxDigits < ds.length then .error (.tooLong ds.length)
      else if !(rest.dropWhile isNumeralChar).isEmpty then .error (.notInteger s)
      else .ok (if negative then -(ofDigits ds : Int) else ofDigits ds)

/-! ## Decimals -/

/-- A digit of any script as an ASCII digit; other characters stay. -/
def toAsciiDigit (c : Char) : Char :=
  match Text.digit? c with
  | some d => Nat.digitChar d
  | none => c

/-- Drops underscores, each of which must stand between digits.  `afterDigit` says whether the text
follows a digit. -/
def dropSeparators (afterDigit : Bool) : List Char → Option (List Char)
  | [] => some []
  | '_' :: c :: rest =>
      if afterDigit && c.isDigit then (dropSeparators true rest).map (c :: ·) else none
  | c :: rest =>
      if c = '_' then none else (dropSeparators c.isDigit rest).map (c :: ·)

/-- The number that ASCII digits stand for. -/
def ofAscii (cs : List Char) : Nat := ofDigits (cs.map (fun c => c.toNat - '0'.toNat))

/-- Reads an exponent up to the end of the text; no text stands for zero. -/
def readExponent : List Char → Option Int
  | [] => some 0
  | c :: rest =>
      if c = 'e' || c = 'E' then
        let (negative, ds) := takeSign rest
        if ds.isEmpty || !ds.all Char.isDigit then none
        else some (if negative then -(ofAscii ds : Int) else ofAscii ds)
      else none

/-- Reads an unsigned decimal: digits, a point with digits on one side at the least, an
exponent. -/
def readDecimal (negative : Bool) (cs : List Char) : Option Binary64 :=
  let whole := cs.takeWhile Char.isDigit
  let (fraction, rest) :=
    match cs.dropWhile Char.isDigit with
    | '.' :: rest => (rest.takeWhile Char.isDigit, rest.dropWhile Char.isDigit)
    | rest => ([], rest)
  if whole.isEmpty && fraction.isEmpty then none
  else
    (readExponent rest).map fun e =>
      Binary64.ofDecimal negative (ofAscii (whole ++ fraction)) (e - fraction.length)

/-- Reads an unsigned number or one of the words for what is beyond all numbers. -/
def readUnsigned (negative : Bool) (cs : List Char) : Option Binary64 :=
  match String.ofList (cs.map Char.toLower) with
  | "inf" => some (.infinite negative)
  | "infinity" => some (.infinite negative)
  | "nan" => some .nan
  | _ => readDecimal negative cs

/-- Reads a floating-point number. -/
def readFloat (s : String) : Except NumeralFault Binary64 :=
  let cs := (Text.trimBlanks s.toList).map toAsciiDigit
  let read := do
    let (negative, rest) := takeSign (← dropSeparators false cs)
    readUnsigned negative rest
  match read with
  | some x => .ok x
  | none => .error (.notFloat s)

end Numeral

end CodeMetrics
