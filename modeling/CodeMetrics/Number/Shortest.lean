import CodeMetrics.Number.Binary64

/-!
# The shortest decimal of a number

A number is written with the fewest digits that read back as the same number;
of several such decimals the nearest is taken.

* `Binary64.shortest` — the digits and the power of ten;
* `Binary64.display` — the written form: positional for exponents from -4 to 15, with an exponent
  of at least two digits otherwise, and always recognisable as no whole number.
-/

namespace CodeMetrics.Binary64

/-- The reals that round to a positive number, in quarters of its unit: the number itself, the
lower and the upper end.  Just above a power of two the lower neighbour is nearer. -/
structure RoundingInterval where
  low : Nat
  value : Nat
  high : Nat
  /-- A quarter of the unit is `2 ^ exponent`. -/
  exponent : Int
  /-- Whether the ends round to the number too. -/
  closed : Bool

/-- The reals that round to `m * 2 ^ e`. -/
def roundingInterval (m : Nat) (e : Int) : RoundingInterval where
  low := 4 * m - (if m = Nat.pow 2 (precision - 1) && decide (minExponent < e) then 1 else 2)
  value := 4 * m
  high := 4 * m + 2
  exponent := e - 2
  closed := m % 2 = 0

/-- Whether `digits * 10 ^ scale` lies in the interval. -/
def RoundingInterval.holds (i : RoundingInterval) (digits : Nat) (scale : Int) : Bool :=
  let ten := if 0 ≤ scale then (Nat.pow 10 scale.toNat, 1) else (1, Nat.pow 10 (-scale).toNat)
  let two :=
    if 0 ≤ i.exponent then (Nat.pow 2 i.exponent.toNat, 1)
    else (1, Nat.pow 2 (-i.exponent).toNat)
  let point := digits * ten.1 * two.2
  let low := i.low * two.1 * ten.2
  let high := i.high * two.1 * ten.2
  if i.closed then decide (low ≤ point) && decide (point ≤ high)
  else decide (low < point) && decide (point < high)

/-- The number of zeros between the point and the first digit of `num / den`, which is below
one. -/
def leadingZeros (num den : Nat) : Nat → Nat
  | 0 => 0
  | fuel + 1 => if den ≤ num * 10 then 0 else leadingZeros (num * 10) den fuel + 1

/-- The position of the point: `num / den` is at least `10 ^ (p - 1)` and less than `10 ^ p`. -/
def pointOf (num den : Nat) : Int :=
  if den ≤ num then (toString (num / den)).length else -(leadingZeros num den 400 : Int)

/-- Looks for a decimal of `count`, `count + 1`, … digits in the interval.  On each grid only the
two neighbours of the number can lie in it. -/
def searchDigits (i : RoundingInterval) (num den : Nat) (point : Int) (count : Nat) :
    Nat → Nat × Int
  | 0 => (num / den, 0)
  | fuel + 1 =>
      let scale := point - count
      let (n, d) :=
        if 0 ≤ scale then (num, den * Nat.pow 10 scale.toNat)
        else (num * Nat.pow 10 (-scale).toNat, den)
      let below := n / d
      let rest := n % d
      let lowFits := i.holds below scale
      let highFits := i.holds (below + 1) scale
      if lowFits && highFits then
        if 2 * rest < d then (below, scale)
        else if d < 2 * rest then (below + 1, scale)
        else if below % 2 = 0 then (below, scale) else (below + 1, scale)
      else if lowFits then (below, scale)
      else if highFits then (below + 1, scale)
      else searchDigits i num den point (count + 1) fuel

/-- The shortest decimal `digits * 10 ^ scale` that reads back as the positive number
`m * 2 ^ e`. -/
def shortest (m : Nat) (e : Int) : Nat × Int :=
  let (num, den) := if 0 ≤ e then (m * Nat.pow 2 e.toNat, 1) else (m, Nat.pow 2 (-e).toNat)
  searchDigits (roundingInterval m e) num den (pointOf num den) 1 17

/-! ## The written form -/

/-- Decimal digits without the zeros at their end. -/
def trimZeros (ds : List Char) : List Char := (ds.reverse.dropWhile (· = '0')).reverse

/-- An exponent with its sign and at least two digits. -/
def exponentText (e : Int) : String :=
  let digits := toString e.natAbs
  let sign := if e < 0 then "-" else "+"
  "e" ++ sign ++ (if digits.length < 2 then "0" else "") ++ digits

/-- Digits with the point at `point`, written without or with an exponent. -/
def layOut (ds : List Char) (point : Int) : String :=
  if -4 < point && point ≤ 16 then
    if point ≤ 0 then
      "0." ++ String.ofList (List.replicate (-point).toNat '0' ++ ds)
    else if ds.length ≤ point.toNat then
      String.ofList (ds ++ List.replicate (point.toNat - ds.length) '0') ++ ".0"
    else
      String.ofList (ds.take point.toNat) ++ "." ++ String.ofList (ds.drop point.toNat)
  else
    let rest := ds.drop 1
    String.ofList (ds.take 1) ++ (if rest.isEmpty then "" else "." ++ String.ofList rest)
      ++ exponentText (point - 1)

/-- The written form of a number. -/
def display : Binary64 → String
  | nan => "nan"
  | infinite negative => if negative then "-inf" else "inf"
  | finite negative m e =>
      let sign := if negative then "-" else ""
      if m = 0 then sign ++ "0.0"
      else
        let (digits, scale) := shortest m e
        let ds := (toString digits).toList
        sign ++ layOut (trimZeros ds) (ds.length + scale)

end CodeMetrics.Binary64
