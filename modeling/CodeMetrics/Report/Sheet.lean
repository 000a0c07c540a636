import CodeMetrics.Failure
import CodeMetrics.Metrics.Result

/-!
# The report as tables

One table for every file: the functions are its rows, the file's path its
title, and the file's measures its caption.  Tables are drawn by a console.

* `Sheet` — a table of marked-up texts;
* `Console` — what draws tables and lines, and can fail to;
* `Report.sheet` — the table of an analysis;
* `Printout` — what comes out of printing, which can break off;
* `Report.sheets` — the report on a list of analyses.
-/

namespace CodeMetrics

/-- The side that the cells of a column stand on. -/
inductive Justify where
  | left
  | right
deriving Repr, DecidableEq, Inhabited

/-- A column of a table. -/
structure Column where
  header : String
  style : String := ""
  justify : Justify := .left
deriving Repr, DecidableEq, Inhabited

/-- A table of marked-up texts. -/
structure Sheet where
  title : String
  caption : String
  columns : List Column
  rows : List (List String)
deriving Repr, DecidableEq, Inhabited

/-- What a run asks of a console.  Where it cannot draw what it is asked for, a condition is raised
that no one catches. -/
structure Console where
  /-- The markup that shows a text as it is. -/
  escape : String → String
  /-- Markup as it is printed on lines of its own. -/
  line : String → Except Uncaught String
  table : Sheet → Except Uncaught String

/-- What comes out of printing. -/
structure Printout where
  text : String := ""
  /-- The condition that the printing broke off on. -/
  fault? : Option Uncaught := none
deriving Repr, DecidableEq, Inhabited

/-- Whether the printing came to its end. -/
def Printout.complete (p : Printout) : Bool := p.fault?.isNone

namespace Report

/-- A complexity in the colour of a traffic light. -/
def complexityLabel (n : Int) : String :=
  if 20 < n then s!"[red bold]{n}[/red bold]"
  else if 10 < n then s!"[yellow]{n}[/yellow]"
  else s!"[green]{n}[/green]"

/-- The columns of a report. -/
def columns : List Column :=
  { header := "Function", style := "cyan" } ::
    ["Line", "Complexity", "Nesting", "Conditions", "Params", "Returns", "Chains"].map
      ({ header := ·, justify := .right })

/-- The row of a function. -/
def row (console : Console) (r : FunctionRecord) : List String :=
  [console.escape r.name, toString r.startLine, complexityLabel r.cyclomaticComplexity,
    toString r.maxNestingDepth, toString r.maxConditions, toString r.parameterCount,
    toString r.returns, toString r.maxMessageChains]

/-- The table of an analysis. -/
def sheet (console : Console) (a : Analysis) : Sheet where
  title := s!"[bold]{console.escape a.file.path}[/bold]"
  caption :=
    s!"imports {a.file.packageComplexity} · strings {a.file.strings} "
      ++ s!"· conditions {a.file.allConditions}"
  columns := columns
  rows := a.functions.values.map (row console)

/-- The report on a list of analyses as tables, each followed by an empty line.  It breaks off at
the first table that cannot be drawn. -/
def sheets (console : Console) : List Analysis → Printout
  | [] => {}
  | a :: rest =>
      match console.table (sheet console a) with
      | .ok table =>
          let later := sheets console rest
          { later with text := table ++ "\n" ++ later.text }
      | .error u => { fault? := some u }

end Report

end CodeMetrics
