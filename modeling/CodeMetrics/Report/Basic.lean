import CodeMetrics.Report.Blocks
import CodeMetrics.Report.Json
import CodeMetrics.Report.Sheet
import CodeMetrics.Settings.Basic

/-!
# Reports

* `Report.printed` — the report on a list of analyses as it is printed;
* `Report.format` — the report as a text, if it is printed to its end; JSON goes without the line
  end that closes it in print.
-/

namespace CodeMetrics.Report

/-- The report on a list of analyses as it is printed. -/
def printed (console : Console) (f : OutputFormat) (analyses : List Analysis) : Printout :=
  match f with
  | .text => { text := blocks analyses }
  | .json => { text := json analyses ++ "\n" }
  | .rich => sheets console analyses

/-- The report on a list of analyses as a text. -/
def format (console : Console) (f : OutputFormat) (analyses : List Analysis) :
    Except Uncaught String :=
  match f with
  | .text => .ok (blocks analyses)
  | .json => .ok (json analyses)
  | .rich =>
      let tables := sheets console analyses
      match tables.fault? with
      | none => .ok tables.text
      | some u => .error u

end CodeMetrics.Report
