/-!
# Binary floating-point numbers, exactly

A floating-point number is kept as what it stands for: a whole number of
units, each unit a power of two, or one of the values beyond all numbers.
Every operation below is exact arithmetic on whole numbers followed by one
rounding.

* `Binary64` — the numbers of the 64-bit binary format;
* `Binary64.ofRatio`, `Binary64.ofDecimal` — the nearest number to a ratio or a decimal, a tie
  going to the even mantissa;
* `Binary64.ltInt`, `Binary64.leInt` — exact comparison with a whole number.
-/

namespace CodeMetrics

/-- A number of the 64-bit binary format.  `finite negative m e` stands for `m * 2 ^ e`, negated if
`negative` is set; zero keeps its sign. -/
inductive Binary64 where
  | nan
  | infinite (negative : Bool)
  | finite (negative : Bool) (mantissa : Nat) (exponent : Int)
deriving Repr, DecidableEq, Inhabited

namespace Binary64

/-- The number of bits of a mantissa. -/
def precision : Nat := 53

/-- The least exponent. -/
def minExponent : Int := -1074

/-- The greatest exponent. -/
def maxExponent : Int := 971

/-- The quotient rounded to a whole number, a tie going to the even one. -/
def divideToEven (num den : Nat) : Nat :=
  let q := num / den
  let r := num % den
  if 2 * r < den then q
  else if den < 2 * r then q + 1
  else if q % 2 = 0 then q else q + 1

/-- `num / den / 2 ^ e` as a quotient of whole numbers. -/
def scaleBy (num den : Nat) (e : Int) : Nat × Nat :=
  if 0 ≤ e then (num, den * Nat.pow 2 e.toNat) else (num * Nat.pow 2 (-e).toNat, den)

/-- The exponent at which a positive ratio has a mantissa of full length, unless that would be
below the least exponent. -/
def exponentOf (num den : Nat) : Int :=
  let guess : Int := (num.log2 : Int) - (den.log2 : Int) - (precision - 1 : Nat)
  let (n, d) := scaleBy num den guess
  let exact := if n < d * Nat.pow 2 (precision - 1) then guess - 1 else guess
  max exact minExponent

/-- The number nearest to `num / den`, with the given sign. -/
def ofRatio (negative : Bool) (num den : Nat) : Binary64 :=
  if num = 0 then finite negative 0 minExponent
  else
    let e := exponentOf num den
    let (n, d) := scaleBy num den e
    let m := divideToEven n d
    let (m, e) :=
      if m = Nat.pow 2 precision then (Nat.pow 2 (precision - 1), e + 1) else (m, e)
    if maxExponent < e then infinite negative else finite negative m e

/-- The number nearest to `digits * 10 ^ exponent`, with the given sign.  Decimals that are far
beyond the format are settled by their size alone. -/
def ofDecimal (negative : Bool) (digits : Nat) (exponent : Int) : Binary64 :=
  if digits = 0 then ofRatio negative 0 1
  else
    let magnitude := ((toString digits).length : Int) + exponent
    if 310 < magnitude then infinite negative
    else if magnitude < -330 then ofRatio negative 0 1
    else if 0 ≤ exponent then ofRatio negative (digits * Nat.pow 10 exponent.toNat) 1
    else ofRatio negative digits (Nat.pow 10 (-exponent).toNat)

/-- The number nearest to a whole number. -/
def ofInt (n : Int) : Binary64 := ofRatio (decide (n < 0)) n.natAbs 1

/-- The signed mantissa. -/
def signed (negative : Bool) (m : Nat) : Int := if negative then -(m : Int) else m

/-- Whether the number is less than `n`. -/
def ltInt (x : Binary64) (n : Int) : Bool :=
  match x with
  | nan => false
  | infinite negative => negative
  | finite negative m e =>
      if 0 ≤ e then decide (signed negative m * (Nat.pow 2 e.toNat : Nat) < n)
      else decide (signed negative m < n * (Nat.pow 2 (-e).toNat : Nat))

/-- Whether the number is at most `n`. -/
def leInt (x : Binary64) (n : Int) : Bool :=
  match x with
  | nan => false
  | infinite negative => negative
  | finite negative m e =>
      if 0 ≤ e then decide (signed negative m * (Nat.pow 2 e.toNat : Nat) ≤ n)
      else decide (signed negative m ≤ n * (Nat.pow 2 (-e).toNat : Nat))

/-- Whether the number is a zero of either sign. -/
def isZero : Binary64 → Bool
  | finite _ 0 _ => true
  | _ => false

/-- The number times `2 ^ k`: exact, unless the result is beyond the format. -/
def scaleUp (x : Binary64) (k : Nat) : Binary64 :=
  match x with
  | finite negative m e =>
      let (num, den) := if 0 ≤ e then (m * Nat.pow 2 e.toNat, 1) else (m, Nat.pow 2 (-e).toNat)
      ofRatio negative (num * Nat.pow 2 k) den
  | other => other

/-- The whole number towards zero; there is none beyond all numbers. -/
def truncate? : Binary64 → Option Int
  | finite negative m e =>
      let whole := if 0 ≤ e then m * Nat.pow 2 e.toNat else m / Nat.pow 2 (-e).toNat
      some (signed negative whole)
  | _ => none

end Binary64

end CodeMetrics
