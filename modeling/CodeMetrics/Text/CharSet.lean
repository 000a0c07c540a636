/-!
# Sets of characters

A property of characters that a standard lists by ranges of code points is
kept as that list.

* `CharSet` — ranges of code points, both ends included;
* `CharSet.contains` — membership of a character.
-/

namespace CodeMetrics

/-- Ranges of code points, both ends included. -/
structure CharSet where
  ranges : List (Nat × Nat)

/-- Whether some range of the set holds the character. -/
def CharSet.contains (s : CharSet) (c : Char) : Bool :=
  s.ranges.any (fun r => r.1 ≤ c.toNat && c.toNat ≤ r.2)

end CodeMetrics
