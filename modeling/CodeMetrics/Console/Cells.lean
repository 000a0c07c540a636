import CodeMetrics.Console.CellWidth
import CodeMetrics.Text.Digit

/-!
# Lines of a fixed width

A text is laid out in lines that take no more than a number of cells.  Lines
are broken at blanks where that is possible.

* `Cells.measure` — the width of the widest line of a text;
* `Cells.crop?`, `Cells.fit?` — a line cut to a width, if it can be cut there;
* `Cells.wrap?` — a text broken into lines of a given width.
-/

namespace CodeMetrics.Cells

/-- Whether a line can be broken after the character. -/
def isSpace (c : Char) : Bool := Text.isBlank c || (28 ≤ c.toNat && c.toNat ≤ 31)

/-- A text without the blanks at its end. -/
def trimEnd (cs : List Char) : List Char := (cs.reverse.dropWhile isSpace).reverse

/-- A number of blanks. -/
def spaces (n : Nat) : List Char := List.replicate n ' '

/-- A text without the controls that would move the cursor of a terminal. -/
def sanitize (cs : List Char) : List Char :=
  cs.filter (fun c => !([7, 8, 11, 12, 13].contains c.toNat))

/-! ## Tabs -/

/-- The distance between tab stops. -/
def tabStop : Nat := 8

/-- A line in parts that were divided by tabs, with blanks up to the next stop in place of each tab.
`start` is the cell that the first part starts in. -/
def fillTabs (start : Nat) : List (List Char) → List Char
  | [] => []
  | [last] => last
  | part :: rest =>
      let text := part ++ [' ']
      let reached := start + width text
      let missing := (tabStop - reached % tabStop) % tabStop
      text ++ spaces missing ++ fillTabs (reached + missing) rest

/-- A line without tabs: each is a blank at least, and leads to the next stop. -/
def expandTabs (cs : List Char) : List Char := fillTabs 0 (cs.splitOn '\t')

/-! ## Measuring -/

/-- Whether a character ends a line when the width of a text is measured. -/
def endsLine (c : Char) : Bool :=
  (10 ≤ c.toNat && c.toNat ≤ 13) || (28 ≤ c.toNat && c.toNat ≤ 30) || c.toNat = 0x85
    || c.toNat = 0x2028 || c.toNat = 0x2029

/-- The width of the widest line of a text. -/
def measure (cs : List Char) : Nat :=
  ((cs.splitOnP endsLine).map width).foldl max 0

/-! ## Breaking lines -/

/-- The words of a line, each with the blanks after it; the first one also has the blanks in front.
Blanks alone are no word. -/
def words (cs : List Char) : List (List Char) :=
  match cs.splitBy (fun a b => !isSpace a || isSpace b) with
  | [] => []
  | [only] => if only.all isSpace then [] else [only]
  | first :: second :: rest =>
      if first.all isSpace then (first ++ second) :: rest else first :: second :: rest

/-- The pieces of a word that is being cut: those done, last first, and the one being filled. -/
structure Cutting where
  done : List (List Char) := []
  piece : List Char := []
  used : Nat := 0

/-- Puts one more cluster, in a new piece if the old one would be too wide with it. -/
def Cutting.put (limit : Nat) (c : Cutting) (k : Cluster) : Cutting :=
  if limit < c.used + k.cells then ⟨c.piece :: c.done, k.chars, k.cells⟩
  else { c with piece := c.piece ++ k.chars, used := c.used + k.cells }

/-- A word cut into pieces that take at most a number of cells each. -/
def chop (limit : Nat) (cs : List Char) : List (List Char) :=
  let c := (clusters cs).foldl (Cutting.put limit) {}
  (c.piece :: c.done).reverse

/-- What is done with a word that is wider than a line. -/
inductive Overflow where
  /-- It is cut into pieces. -/
  | fold
  /-- Its end is replaced by dots. -/
  | ellipsis
deriving Repr, DecidableEq, Inhabited

/-- The lines broken so far and the line that is being filled. -/
structure Breaking where
  done : List (List Char) := []
  line : List Char := []
  used : Nat := 0
  started : Bool := false

/-- Begins a new line with a text, unless it is the first text of all. -/
def Breaking.newLine (b : Breaking) (cs : List Char) : Breaking :=
  { done := if b.started then b.done ++ [b.line] else b.done
    line := cs
    used := width cs
    started := true }

/-- Puts one more word. -/
def Breaking.put (limit : Nat) (overflow : Overflow) (b : Breaking) (word : List Char) :
    Breaking :=
  let needed := width (trimEnd word)
  if b.used + needed ≤ limit then
    { b with line := b.line ++ word, used := b.used + width word, started := true }
  else if limit < needed then
    match overflow with
    | .fold => (chop limit word).foldl Breaking.newLine b
    | .ellipsis => b.newLine word
  else b.newLine word

/-- A line broken at blanks into lines of at most `limit` cells, as far as the words allow. -/
def breakLine (limit : Nat) (overflow : Overflow) (cs : List Char) : List (List Char) :=
  match words cs with
  | [] => [cs]
  | ws =>
      let b := ws.foldl (Breaking.put limit overflow) {}
      b.done ++ [b.line]

/-! ## Cutting lines -/

/-- The clusters that fill a number of cells, with a blank for half a cluster.  There is no answer
if the clusters end before that. -/
def take? (limit : Nat) : List Cluster → Option (List Char)
  | [] => if limit = 0 then some [] else none
  | k :: rest =>
      if limit = 0 then some []
      else if k.cells ≤ limit then (take? (limit - k.cells) rest).map (k.chars ++ ·)
      else some (spaces limit)

/-- A text cut to a number of cells; half a character is replaced by a blank.  Joiners at the front
of a text make its clusters narrower than the text, so that the cut can lie behind all of them. -/
def crop? (limit : Nat) (cs : List Char) : Option (List Char) := take? limit (clusters cs)

/-- A line that takes no more than a number of cells. -/
def fit? (limit : Nat) (overflow : Overflow) (cs : List Char) : Option (List Char) :=
  if width cs ≤ limit then some cs
  else
    match overflow with
    | .fold => crop? limit cs
    | .ellipsis => (crop? (limit - 1) cs).map (· ++ ['…'])

/-- The parts of a line up to a number of cells; the part that reaches there is cut. -/
def cropParts? (limit : Nat) : List (List Char) → Option (List (List Char))
  | [] => some []
  | part :: rest =>
      if width part < limit then (cropParts? (limit - width part) rest).map (part :: ·)
      else (fit? limit .fold part).map ([·])

/-- A line in parts that takes no more than a number of cells; each part is measured by itself. -/
def fitParts? (limit : Nat) (parts : List (List Char)) : Option (List (List Char)) :=
  if parts.foldl (fun n part => n + width part) 0 ≤ limit then some parts
  else cropParts? limit parts

/-! ## Placing lines -/

/-- How a line is placed within a width. -/
inductive Alignment where
  /-- The line stays as it is. -/
  | natural
  | left
  | center
  | right
deriving Repr, DecidableEq, Inhabited

/-- Drops blanks at the end of a line, but not more than it is too long by. -/
def trimExcess (limit : Nat) (cs : List Char) : List Char :=
  let blanks := cs.length - (trimEnd cs).length
  cs.take (cs.length - min blanks (cs.length - limit))

/-- A line filled up to a width with blanks. -/
def fill (limit : Nat) (cs : List Char) : List Char := cs ++ spaces (limit - width cs)

/-- A line that fits into a width, with blanks around it.  In the middle, the right side gets the
odd cell. -/
def place (a : Alignment) (limit : Nat) (cs : List Char) : List Char :=
  let spare := limit - width cs
  match a with
  | .natural => cs
  | .left => fill limit cs
  | .center => spaces (spare / 2) ++ cs ++ spaces (spare - spare / 2)
  | .right => spaces spare ++ cs

/-- A line placed within a width.  Blanks at its end count only on the left. -/
def align? (a : Alignment) (limit : Nat) (overflow : Overflow) (cs : List Char) :
    Option (List Char) := do
  let line :=
    match a with
    | .natural | .left => trimExcess limit cs
    | .center | .right => trimEnd cs
  fit? limit overflow (place a limit (← fit? limit overflow line))

/-- A text as lines within a width. -/
def wrap? (a : Alignment) (limit : Nat) (overflow : Overflow) (cs : List Char) :
    Option (List (List Char)) :=
  let lines := (cs.splitOn '\n').flatMap fun line =>
    breakLine limit overflow (expandTabs line)
  lines.mapM (align? a limit overflow)

end CodeMetrics.Cells
