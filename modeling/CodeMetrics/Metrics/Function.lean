import CodeMetrics.Log
import CodeMetrics.Tree.Kind

/-!
# Measures of a function

A declaration is measured over its whole subtree, nested declarations
included, in one walk.  Member chains count in the body alone; a longer chain
elsewhere, say in a default value of a parameter, is reported and left out.

* `Cursor.functionName`, `Cursor.parameterCount` — what the declaration says of itself;
* `FunctionTally` — the counts and maxima kept during the walk;
* `Cursor.messageChain` — the longest member chain under a node;
* `Cursor.measure` — the record of a declaration and what is reported on the way.
-/

namespace CodeMetrics

namespace Cursor

/-- The declared name, or a label made from the line if there is none. -/
def functionName (c : Cursor) : String :=
  match (c.node.childUnder? "name").bind (·.label.text?) with
  | some text => if text.isEmpty then s!"anon function @{c.node.line}" else text
  | none => s!"anon function @{c.node.line}"

/-- The number of parameters; comments between them do not count. -/
def parameterCount (c : Cursor) : Nat :=
  match c.node.childUnder? "parameters" with
  | some list => list.namedChildren.countP (·.type != "comment")
  | none => 0

/-- The most member accesses found within one member access under the node. -/
def messageChain (c : Cursor) : Nat := c.maxOver isMemberAccess (count isMemberAccess)

end Cursor

/-- What a walk over a declaration keeps count of. -/
structure FunctionTally where
  decisions : Nat := 0
  nesting : Nat := 0
  conditions : Nat := 0
  returns : Nat := 0
  chains : Nat := 0
deriving Repr, DecidableEq, Inhabited

/-- The tally after one more node.  A decision is not nested in itself. -/
def FunctionTally.visit (t : FunctionTally) (c : Cursor) : FunctionTally :=
  match c.kind with
  | .conditional =>
      { t with
        decisions := t.decisions + 1
        nesting := max t.nesting (c.count Cursor.isDecision - 1)
        conditions := max t.conditions (c.count Cursor.isLogical) }
  | .forLoop | .forIn | .whileLoop | .doWhile =>
      { t with
        decisions := t.decisions + 1
        nesting := max t.nesting (c.count Cursor.isDecision - 1) }
  | .returnStatement => { t with returns := t.returns + 1 }
  | .memberAccess => { t with chains := max t.chains (c.count Cursor.isMemberAccess) }
  | _ => t

namespace Cursor

/-- The tally over the whole subtree. -/
def tally (c : Cursor) : FunctionTally := c.fold FunctionTally.visit {}

/-- The longest member chain of the body, and zero for a declaration without one. -/
def bodyChain (c : Cursor) : Nat :=
  match c.childUnder? "body" with
  | some body => body.messageChain
  | none => 0

/-- The record of a declaration. -/
def functionRecord (c : Cursor) : FunctionRecord :=
  let t := c.tally
  { name := c.functionName
    startLine := c.node.line
    parameterCount := c.parameterCount
    cyclomaticComplexity := 1 + t.decisions
    maxNestingDepth := t.nesting
    maxConditions := t.conditions
    returns := t.returns
    maxMessageChains := c.bodyChain }

/-- What measuring a declaration reports: a member chain outside the body, if it is longer. -/
def measureEvents (c : Cursor) : List Event :=
  let whole := c.tally.chains
  let body := c.bodyChain
  if body = whole then [] else [.chainOutsideBody c.functionName whole body]

/-- The record of a declaration with what is reported on the way. -/
def measure (c : Cursor) : FunctionRecord × List Event := (c.functionRecord, c.measureEvents)

end Cursor

end CodeMetrics
