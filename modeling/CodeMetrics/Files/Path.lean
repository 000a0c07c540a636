/-!
# Paths

A path is the list of the names it passes through, behind no slash, one slash
or two.  Repeated slashes, single dots and slashes at the end do not change
where a path leads and are dropped; double dots stay, since they can lead
elsewhere than the names before them suggest.

* `Path.ofString`, `Path.text` — a path read and written;
* `Path.name`, `Path.suffix` — its last name and the ending of that name;
* `Path.child` — the path one name further on.
-/

namespace CodeMetrics

/-- The names that a path passes through, behind a number of slashes. -/
structure Path where
  /-- Zero for a path from where one stands; one or two for a path from the top. -/
  slashes : Nat
  names : List String
deriving Repr, DecidableEq, Inhabited

namespace Path

/-- The number of slashes kept at the front: exactly two stay, any other number of them is as good
as one. -/
def leadingSlashes (cs : List Char) : Nat :=
  match (cs.takeWhile (· = '/')).length with
  | 0 => 0
  | 2 => 2
  | _ => 1

/-- Whether a piece between slashes is a name that a path passes through. -/
def isName (piece : List Char) : Bool := !piece.isEmpty && piece != ['.']

/-- The path that a text describes. -/
def ofString (s : String) : Path where
  slashes := leadingSlashes s.toList
  names := ((s.toList.splitOn '/').filter isName).map String.ofList

/-- The written form of a path; the path to where one stands is a dot. -/
def text (p : Path) : String :=
  if p.slashes = 0 && p.names.isEmpty then "."
  else String.ofList (List.replicate p.slashes '/') ++ "/".intercalate p.names

/-- The last name, or nothing if there is none. -/
def name (p : Path) : String := p.names.getLast?.getD ""

/-- The ending of a name from its last dot on.  There is none if the dot is the first or the last
character. -/
def suffixOf (name : String) : String :=
  let back := name.toList.reverse
  let ending := back.takeWhile (· ≠ '.')
  match back.dropWhile (· ≠ '.') with
  | _ :: front =>
      if ending.isEmpty || front.isEmpty then "" else String.ofList ('.' :: ending.reverse)
  | [] => ""

/-- The ending of the last name. -/
def suffix (p : Path) : String := suffixOf p.name

/-- The path one name further on. -/
def child (p : Path) (name : String) : Path := { p with names := p.names ++ [name] }

end Path

end CodeMetrics
