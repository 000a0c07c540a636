import CodeMetrics.Metrics.Record
import CodeMetrics.Tree.Kind
import CodeMetrics.Tree.Parents

/-!
# Measures of a file

Three counters follow a walk over the whole file: string literals, import
calls and the weight of the conditionals.  The first argument of an import
call names a module and is no string of the program; to tell it apart, a
string looks at the parent links of the walk.

* `Cursor.isImportCall`, `Cursor.isImportSpecifier` — import calls and what they import;
* `FileTally.visit` — the counters after one more node;
* `FileTally.record` — the record that the counters amount to.
-/

namespace CodeMetrics

namespace Cursor

/-- Whether the node calls `callee`, a plain identifier, by name. -/
def isImportCall (callee : String) (c : Cursor) : Bool :=
  match c.node.childUnder? "function" with
  | some f => f.type == "identifier" && f.label.text? == some callee
  | none => false

/-- Whether the node is the first argument of an import call, by the given parent links. -/
def isImportSpecifier (callee : String) (parents : Parents) (c : Cursor) : Bool :=
  match parents.parentOf? c with
  | none => false
  | some arguments =>
      arguments.node.type == "arguments" &&
      match parents.parentOf? arguments with
      | none => false
      | some call =>
          call.kind == .call && call.isImportCall callee &&
          match arguments.node.namedChildren with
          | [] => false
          | first :: _ => first.id == c.id

end Cursor

/-- The counters of a file. -/
structure FileTally where
  strings : Int := 0
  imports : Int := 0
  conditions : Int := 0
deriving Repr, DecidableEq, Inhabited

namespace FileTally

/-- The counters after a visit of the node `c`, taken to be of the given kind.  A conditional counts
once, and then once more for each condition that it joins beyond the first. -/
def visit (callee : String) (parents : Parents) (t : FileTally) (c : Cursor) (kind : Kind) :
    FileTally :=
  match kind with
  | .stringLiteral =>
      if c.isImportSpecifier callee parents then t else { t with strings := t.strings + 1 }
  | .call => if c.isImportCall callee then { t with imports := t.imports + 1 } else t
  | .conditional =>
      let t := { t with conditions := t.conditions + 1 }
      let extra : Int := c.count Cursor.isLogical
      if 0 < extra then { t with conditions := t.conditions + (extra - 1) } else t
  | _ => t

/-- The record that the counters amount to. -/
def record (t : FileTally) (path : String) : FileRecord where
  path := path
  strings := t.strings
  packageComplexity := t.imports
  allConditions := t.conditions

end FileTally

end CodeMetrics
