import CodeMetrics.Files.Path
import CodeMetrics.Number.Shortest
import CodeMetrics.Text.Quoted
import CodeMetrics.Value.Moment

/-!
# Values of settings

A setting can be given a value of any sort; whether the sort fits is decided
when the settings are checked.

* `Value` — the sorts of values that settings files and callers can give;
* `Value.plain`, `Value.display` — a value in messages, by itself and inside another value;
* `Value.plainFault?`, `Value.displayFault?` — what keeps a value from being shown in either way;
* `Value.truthy` — whether a value counts as true where any value will do;
* `Quantity` — the values that can be compared with a number.
-/

namespace CodeMetrics

/-- A value of any sort. -/
inductive Value where
  | null
  | bool (b : Bool)
  | int (n : Int)
  | float (x : Binary64)
  | text (s : String)
  | moment (m : Moment)
  | path (p : Path)
  | array (items : List Value)
  | table (entries : List (String × Value))
deriving Repr, Inhabited

/-- Why a value cannot be shown. -/
inductive ShowFault where
  /-- A whole number in it has too many digits. -/
  | tooManyDigits
  /-- Values in it lie too deep inside one another. -/
  | tooDeep
deriving Repr, DecidableEq, Inhabited

/-- The wording of a fault. -/
def ShowFault.message : ShowFault → String
  | tooManyDigits =>
      "Exceeds the limit (4300 digits) for integer string conversion; "
        ++ "use sys.set_int_max_str_digits() to increase the limit"
  | tooDeep => "maximum recursion depth exceeded while getting the repr of an object"

namespace Value

mutual

/-- A value as it is shown inside another value. -/
def display : Value → String
  | null => "None"
  | bool b => if b then "True" else "False"
  | int n => toString n
  | float x => x.display
  | text s => Text.quote s
  | moment m => m.display
  | path p => "PosixPath(" ++ Text.quote p.text ++ ")"
  | array items => "[" ++ ", ".intercalate (displayItems items) ++ "]"
  | table entries => "\x7b" ++ ", ".intercalate (displayEntries entries) ++ "\x7d"

/-- The items of an array as they are shown. -/
def displayItems : List Value → List String
  | [] => []
  | v :: rest => display v :: displayItems rest

/-- The entries of a table as they are shown. -/
def displayEntries : List (String × Value) → List String
  | [] => []
  | (k, v) :: rest => (Text.quote k ++ ": " ++ display v) :: displayEntries rest

end

/-- A value as it is shown by itself: texts, moments and paths go without quotes or names. -/
def plain : Value → String
  | text s => s
  | moment m => m.text
  | path p => p.text
  | v => v.display

/-- The number of decimal digits up to which whole numbers are shown. -/
def maxDigits : Nat := 4300

mutual

/-- The first thing that keeps a value from being shown inside another value: a whole number that is
too long, or values deeper inside one another than `room` levels. -/
def displayFault? (room : Nat) : Value → Option ShowFault
  | int n => if n.natAbs < Nat.pow 10 maxDigits then none else some .tooManyDigits
  | moment m => if m.levels ≤ room then none else some .tooDeep
  | array items => itemsFault? room items
  | table entries => entriesFault? room entries
  | _ => none

/-- The first thing that keeps the items of an array from being shown.  Each takes a level. -/
def itemsFault? (room : Nat) : List Value → Option ShowFault
  | [] => none
  | v :: rest =>
      if room = 0 then some .tooDeep else (displayFault? (room - 1) v).or (itemsFault? room rest)

/-- The first thing that keeps the entries of a table from being shown.  A key takes a level as a
value does. -/
def entriesFault? (room : Nat) : List (String × Value) → Option ShowFault
  | [] => none
  | (_, v) :: rest =>
      if room = 0 then some .tooDeep else (displayFault? (room - 1) v).or (entriesFault? room rest)

end

/-- What keeps a value from being shown by itself.  Moments are not spelled out there. -/
def plainFault? (room : Nat) : Value → Option ShowFault
  | moment _ => none
  | v => v.displayFault? room

/-- The name of the sort of a value. -/
def sort : Value → String
  | null => "NoneType"
  | bool _ => "bool"
  | int _ => "int"
  | float _ => "float"
  | text _ => "str"
  | moment m => m.sort
  | path _ => "PosixPath"
  | array _ => "list"
  | table _ => "dict"

/-- Whether a value counts as true: nothing, zeros and what is empty do not. -/
def truthy : Value → Bool
  | null => false
  | bool b => b
  | int n => n != 0
  | float x => !x.isZero
  | text s => !s.isEmpty
  | moment _ => true
  | path _ => true
  | array items => !items.isEmpty
  | table entries => !entries.isEmpty

/-- Whether there is no value. -/
def isNull : Value → Bool
  | null => true
  | _ => false

end Value

/-! ## Quantities -/

/-- A value that can be compared with a number; a truth value counts as zero or one. -/
inductive Quantity where
  | bool (b : Bool)
  | int (n : Int)
  | float (x : Binary64)
deriving Repr, DecidableEq, Inhabited

namespace Quantity

/-- The quantity that a value is. -/
def ofValue? : Value → Option Quantity
  | .bool b => some (bool b)
  | .int n => some (int n)
  | .float x => some (float x)
  | _ => none

/-- The quantity as a value. -/
def toValue : Quantity → Value
  | bool b => .bool b
  | int n => .int n
  | float x => .float x

/-- Whether the quantity is less than `n`. -/
def ltInt (q : Quantity) (n : Int) : Bool :=
  match q with
  | bool b => decide ((b.toNat : Int) < n)
  | int m => decide (m < n)
  | float x => x.ltInt n

/-- Whether the quantity is at most `n`. -/
def leInt (q : Quantity) (n : Int) : Bool :=
  match q with
  | bool b => decide ((b.toNat : Int) ≤ n)
  | int m => decide (m ≤ n)
  | float x => x.leInt n

/-- The quantity as it is shown. -/
def display (q : Quantity) : String := q.toValue.display

@[simp] theorem ofValue?_toValue (q : Quantity) : ofValue? q.toValue = some q := by
  cases q <;> rfl

end Quantity

end CodeMetrics
