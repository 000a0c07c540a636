import CodeMetrics.Console.Markup
import CodeMetrics.Number.Binary64
import CodeMetrics.Report.Sheet

/-!
# A terminal

A console of a fixed width that leaves styles out.  Texts are cut to the width of
the cells that they stand in; a few texts cannot be cut.

* `Sheet.render?` — a table drawn with lines, unless one of its texts cannot be cut to its width;
* `Console.terminal` — the console.
-/

namespace CodeMetrics

/-- How the lines of a cell are placed in its column. -/
def Justify.alignment : Justify → Cells.Alignment
  | left => .left
  | right => .right

namespace Sheet

/-! ## Drawing -/

/-- The lines that a table is drawn with: left, line, crossing and right. -/
structure Rule where
  left : Char
  line : Char
  cross : Char
  right : Char

/-- The line above the headers. -/
def topRule : Rule := ⟨'┏', '━', '┳', '┓'⟩

/-- The line under the headers. -/
def headRule : Rule := ⟨'┡', '━', '╇', '┩'⟩

/-- The line under the last row. -/
def bottomRule : Rule := ⟨'└', '─', '┴', '┘'⟩

/-- A line across columns of the given widths, with a blank on each side of a cell. -/
def Rule.draw (r : Rule) (widths : List Nat) : List Char :=
  let parts := widths.map (fun w => List.replicate (w + 2) r.line)
  r.left :: ([r.cross].intercalate parts ++ [r.right])

/-- One line of cells. -/
def cellLine (bar : Char) (cells : List (List Char)) : List Char :=
  bar :: cells.flatMap (fun c => c ++ [bar])

/-- A line of a cell of width `w` with a blank on each side.  A line that is still too wide pushes
the blank behind it out. -/
def padded? (w : Nat) (line : List Char) : Option (List Char) := do
  let inner ← Cells.fitParts? w [line]
  let outer ← Cells.fitParts? (w + 2) ([[' ']] ++ inner.map (Cells.fill w) ++ [[' ']])
  return outer.flatten

/-- The lines of a row; shorter cells are filled with blanks below. -/
def rowLines? (bar : Char) (widths : List Nat) (columns : List Column)
    (cells : List (List Char)) : Option (List (List Char)) := do
  let wrapped ← (columns.zip (widths.zip cells)).mapM fun (column, w, cell) => do
    let lines ← Cells.wrap? column.justify.alignment w .ellipsis cell
    return (w, ← lines.mapM (padded? w))
  let height := wrapped.foldl (fun h c => max h c.2.length) 1
  return (List.range height).map fun i =>
    cellLine bar (wrapped.map fun (w, lines) => lines[i]?.getD (Cells.spaces (w + 2)))

/-! ### Widths of columns -/

/-- The widths that columns ask for, with a blank on each side: each is as wide as its widest cell
or header. -/
def askedWidths (s : Sheet) : List Nat :=
  s.columns.zipIdx.map fun (column, i) =>
    let cells := s.rows.map (fun row => Cells.measure (Markup.plain (row[i]?.getD "")))
    cells.foldl max (Cells.measure (Markup.plain column.header)) + 2

/-- Takes `excess` off the widths that equal `widest`, from each an even share of what is left,
rounded to nearest, and at most `most`.  `sharing` is the number of such widths. -/
def shrink (widest most : Nat) : Nat → Nat → List Nat → List Nat
  | _, _, [] => []
  | excess, sharing, w :: ws =>
      if w = widest then
        let share := min most (Binary64.divideToEven excess sharing)
        (w - share) :: shrink widest most (excess - share) (sharing - 1) ws
      else w :: shrink widest most excess sharing ws

/-- The width of columns side by side. -/
def total (ws : List Nat) : Nat := ws.foldr (· + ·) 0

/-- Narrows the widest columns until all fit into a number of cells; none becomes narrower than the
next widest in one round.  Every round takes something off, so `fuel` rounds are enough if it is at
least the excess. -/
def collapse (room : Nat) : Nat → List Nat → List Nat
  | 0, ws => ws
  | fuel + 1, ws =>
      let excess := total ws - room
      if excess = 0 then ws
      else
        let widest := ws.foldl max 0
        let next := (ws.filter (· ≠ widest)).foldl max 0
        let sharing := ws.count widest
        collapse room fuel (shrink widest (min excess (widest - next)) excess sharing ws)

/-- The widths of the columns without the blanks.  The columns of a table that is wider than the
console are narrowed. -/
def widths (s : Sheet) : List Nat :=
  let room := Markup.consoleWidth - (s.columns.length + 1)
  let asked := s.askedWidths.map (min room)
  (collapse room (total asked - room) asked).map (· - 2)

/-- A line of a title or caption on the console.  The last character of a line that is wider than
the table, whose width is `whole`, is a part of its own. -/
def noteLine? (whole : Nat) (line : List Char) : Option (List Char) := do
  let parts :=
    if Cells.width line ≤ whole then [line] else [line.dropLast, line.drop (line.length - 1)]
  return (← Cells.fitParts? Markup.consoleWidth parts).flatten

/-- A title or caption in the middle of a table. -/
def noteLines? (whole : Nat) (text : String) : Option (List (List Char)) := do
  (← Cells.wrap? .center whole .fold (Markup.plain text)).mapM (noteLine? whole)

/-- A table drawn with lines. -/
def lines? (s : Sheet) : Option (List (List Char)) := do
  let ws := s.widths
  let whole := total (ws.map (· + 3)) + 1
  let title ← noteLines? whole s.title
  let headers ← rowLines? '┃' ws s.columns (s.columns.map (fun c => Markup.plain c.header))
  let rows ← s.rows.mapM (fun row => rowLines? '│' ws s.columns (row.map Markup.plain))
  let caption ← noteLines? whole s.caption
  return title ++ [topRule.draw ws] ++ headers ++ [headRule.draw ws] ++ rows.flatten
    ++ [bottomRule.draw ws] ++ caption

/-- A table drawn with lines. -/
def render? (s : Sheet) : Option String := do
  return String.join ((← s.lines?).map (fun l => String.ofList l ++ "\n"))

end Sheet

namespace Console

/-- A text cannot be cut at the width of its cell. -/
def notCuttable : Uncaught := .foreign "IndexError" "list index out of range"

/-- A terminal without styles. -/
def terminal : Console where
  escape := Markup.escape
  line markup := (Markup.printed? markup).elim (.error notCuttable) .ok
  table sheet := sheet.render?.elim (.error notCuttable) .ok

end Console

end CodeMetrics
