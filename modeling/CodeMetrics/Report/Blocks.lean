import CodeMetrics.Metrics.Result

/-!
# The plain report

One block of three lines for every record: a heading, a rule, and the measures
in a row.  A blank line stands between blocks.

* `Report.block` — the block of one record;
* `Report.blocks` — the report on a list of analyses.
-/

namespace CodeMetrics.Report

/-- The line under a function's heading. -/
def functionRule : String := "============"

/-- The line under a file's heading. -/
def fileRule : String := "~~~~~~~~~~~~"

/-- Named measures in a row. -/
def measures (fields : List (String × Int)) : String :=
  "\t".intercalate (fields.map (fun f => f.1 ++ ": " ++ toString f.2))

/-- The measures of a function as the report names them. -/
def functionMeasures (r : FunctionRecord) : List (String × Int) :=
  [("SimpleCyclomaticComplexity", r.cyclomaticComplexity),
   ("MaxNestingDepth", r.maxNestingDepth),
   ("MaxConditions", r.maxConditions),
   ("Parameters", r.parameterCount),
   ("Returns", r.returns),
   ("MaxMessageChains", r.maxMessageChains)]

/-- The measures of a file as the report names them. -/
def fileMeasures (r : FileRecord) : List (String × Int) :=
  [("PackageComplexity", r.packageComplexity),
   ("Strings", r.strings),
   ("AllConditions", r.allConditions)]

/-- The block of a function. -/
def functionBlock (r : FunctionRecord) : String :=
  r.name ++ "(): " ++ toString r.startLine ++ "\n" ++ functionRule ++ "\n"
    ++ measures (functionMeasures r) ++ "\n"

/-- The block of a file. -/
def fileBlock (r : FileRecord) : String :=
  r.path ++ "\n" ++ fileRule ++ "\n" ++ measures (fileMeasures r) ++ "\n"

/-- The block of a record of either sort. -/
def block : MetricsRecord → String
  | .file r => fileBlock r
  | .function r => functionBlock r

/-- The blocks of every record of every analysis, a blank line between them. -/
def blocks (analyses : List Analysis) : String :=
  "\n".intercalate (analyses.flatMap (fun a => a.registry.map (fun e => block e.2)))

end CodeMetrics.Report
