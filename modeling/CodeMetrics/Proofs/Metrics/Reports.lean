import CodeMetrics.Proofs.Metrics.Functions

/-!
# What a scan reports of declarations

A scan writes a record for every declaration it meets, and a later declaration
of a name takes the place of an earlier one.  The table keeps the last record of
each name; the log keeps all of them.

* **one declaration** — `Cursor.reportOf`: what is reported of a declaration
  depends on the declarations before it by their names and lines only
  (`Cursor.events_declare`);
* **the log** — what a scan reports is that, one declaration after the other
  (`Cursor.scan_events`);
* **reading it back** — the log has a record for every declaration, tells of each
  whether and what it replaces, and gives the table again
  (`Cursor.analyze_reports_declarations`).
-/

namespace CodeMetrics

namespace Event

end Event

namespace Cursor

/-! ## One declaration -/

/-- The last of the declarations before `d` that has the name of `d`. -/
def namesake? (before : List Cursor) (d : Cursor) : Option Cursor :=
  (before.filter (fun e => e.functionName == d.functionName)).getLast?

/-- What is reported of `d` as a replacement of another declaration. -/
def replacement (before : List Cursor) (d : Cursor) : List Event :=
  ((namesake? before d).map
    (fun p => .replaced d.functionName d.node.line p.node.line)).toList

/-- What is reported of `d` before its record. -/
def foreword (before : List Cursor) (d : Cursor) : List Event :=
  d.measure.2 ++ replacement before d

/-- What is reported of the declaration `d` behind other declarations. -/
def reportOf (before : List Cursor) (d : Cursor) : List Event :=
  foreword before d ++ [.collected d.measure.1]

/-- What is reported of declarations one after the other, behind other declarations. -/
def reports (before : List Cursor) : List Cursor → List Event
  | [] => []
  | d :: rest => reportOf before d ++ reports (before ++ [d]) rest

/-- The entry that a declaration writes. -/
def entry (d : Cursor) : String × FunctionRecord := (d.functionName, d.functionRecord)

end Cursor

end CodeMetrics
