import CodeMetrics.Proofs.Metrics.Function
import CodeMetrics.Proofs.Tree.Shape

/-!
# Measures are local

The kind of a node can depend on its parent, and every measure asks for kinds.
Still the measures of a node are those of its subtree, and of the subtree's
shape: what the parent decides is whether a function is a declaration, which no
counter of a function asks.

* **counters** — the tally, the member chain of the body and the number of
  parameters are read off the shape (`byShape_tally`, `byShape_bodyChain`,
  `byShape_parameterCount`);
* **name** — the declared name is part of the shape, and the label that stands
  in for it is made of the line (`functionName_eq`);
* **record** — so nodes of one shape have records that differ in the line at
  most, and in the label made of it (`measure_eq_of_ownShape_eq`).
-/

namespace CodeMetrics.Cursor

/-! ## Counters -/

theorem byShape_tally : ByShape tally := by
  intro c d h
  have hdepth : ByShape (fun e => e.count isDecision - 1) :=
    fun e f hef => congrArg (· - 1) (byShape_isDecision.count e f hef)
  rw [tally_eq, tally_eq, FunctionTally.mk.injEq]
  refine ⟨?_, ?_, ?_, ?_, ?_⟩
  · exact byShape_isDecision.countP_subtree c d h
  · exact byShape_isDecision.peak_subtree hdepth c d h
  · exact byShape_isConditional.peak_subtree byShape_isLogical.count c d h
  · exact byShape_isReturn.countP_subtree c d h
  · exact byShape_isMemberAccess.peak_subtree byShape_isMemberAccess.count c d h

theorem byShape_messageChain : ByShape messageChain := by
  intro c d h
  rw [messageChain_eq_peak, messageChain_eq_peak]
  exact byShape_isMemberAccess.peak_subtree byShape_isMemberAccess.countP_subtree c d h

theorem byShape_bodyChain : ByShape bodyChain := by
  intro c d h
  unfold bodyChain childUnder?
  rcases Node.childUnder?_cases_of_ownShape_eq h "body" with ⟨hc, hd⟩ | ⟨n, m, hc, hd, hnm⟩
  · rw [hc, hd]
    rfl
  · rw [hc, hd]
    exact byShape_messageChain (c.down n) (d.down m) (Node.ownShape_eq_of_shape_eq hnm)

theorem byShape_parameterCount : ByShape parameterCount := by
  intro c d h
  have hcount : ∀ n : Node, n.shape.namedChildren.countP (·.type != "comment") =
      n.namedChildren.countP (·.type != "comment") := by
    intro n
    simp [Node.namedChildren_shape, List.countP_map, Function.comp_def]
  unfold parameterCount
  rcases Node.childUnder?_cases_of_ownShape_eq h "parameters" with ⟨hc, hd⟩ | ⟨n, m, hc, hd, hnm⟩
  · rw [hc, hd]
  · rw [hc, hd]
    show n.namedChildren.countP _ = m.namedChildren.countP _
    rw [← hcount n, ← hcount m, hnm]

/-! ## Names -/

/-- The name that a declaration gives itself.  An empty text is no name. -/
def declaredName? (c : Cursor) : Option String :=
  ((c.node.childUnder? "name").bind (·.label.text?)).filter (fun text => !text.isEmpty)

/-- The label of a declaration without a name. -/
def anonymousName (c : Cursor) : String := s!"anon function @{c.node.line}"

theorem functionName_eq (c : Cursor) : c.functionName = c.declaredName?.getD c.anonymousName := by
  unfold functionName declaredName? anonymousName
  cases (c.node.childUnder? "name").bind (·.label.text?) with
  | none => rfl
  | some text =>
    show (if text.isEmpty then _ else text) = _
    by_cases h : text.isEmpty
    · rw [if_pos h, Option.filter_some_neg (by simp [h]), Option.getD_none]
    · rw [if_neg h, Option.filter_some_pos (by simp [h]), Option.getD_some]

theorem byShape_declaredName? : ByShape declaredName? := by
  intro c d h
  unfold declaredName?
  rcases Node.childUnder?_cases_of_ownShape_eq h "name" with ⟨hc, hd⟩ | ⟨n, m, hc, hd, hnm⟩
  · rw [hc, hd]
  · rw [hc, hd, Option.bind_some, Option.bind_some, ← n.text?_shape, hnm, m.text?_shape]

theorem functionName_eq_of_ownShape_eq {c d : Cursor} (h : c.node.ownShape = d.node.ownShape)
    (hline : c.node.line = d.node.line) : c.functionName = d.functionName := by
  have hlabel : c.anonymousName = d.anonymousName :=
    congrArg (fun line : Nat => s!"anon function @{line}") hline
  rw [functionName_eq, functionName_eq, byShape_declaredName? c d h, hlabel]

/-! ## Records -/

/-- Nodes of one shape have the same counters. -/
theorem functionRecord_eq_of_ownShape_eq {c d : Cursor} (h : c.node.ownShape = d.node.ownShape) :
    d.functionRecord =
      { c.functionRecord with name := d.functionName, startLine := d.node.line } := by
  unfold functionRecord
  rw [byShape_tally c d h, byShape_bodyChain c d h, byShape_parameterCount c d h]

/-- The record of a declaration does not depend on what lies above it. -/
theorem byNode_functionRecord : ByNode functionRecord := by
  intro c d h
  have hshape : c.node.ownShape = d.node.ownShape := congrArg Node.ownShape h
  have hline : c.node.line = d.node.line := congrArg Node.line h
  rw [functionRecord_eq_of_ownShape_eq hshape, ← functionName_eq_of_ownShape_eq hshape hline,
    ← hline]
  rfl

/-- What a node of the same shape and line reports when it is measured is the same, too. -/
theorem measureEvents_eq_of_ownShape_eq {c d : Cursor} (h : c.node.ownShape = d.node.ownShape)
    (hline : c.node.line = d.node.line) : c.measureEvents = d.measureEvents := by
  unfold measureEvents
  rw [byShape_tally c d h, byShape_bodyChain c d h, functionName_eq_of_ownShape_eq h hline]

/-- Two nodes of one shape, wherever they lie and whatever holds them, are measured alike.  If they
start on the same row, measuring them gives the same record and reports the same.  In any case the
records differ in the line and in the name at most: where a name is declared, both bear it, and
otherwise both bear the label made of their own line. -/
theorem measure_eq_of_ownShape_eq {c d : Cursor} (h : c.node.ownShape = d.node.ownShape) :
    (c.node.label.row = d.node.label.row → c.measure = d.measure) ∧
    d.measure.1 =
      { c.measure.1 with name := d.measure.1.name, startLine := d.measure.1.startLine } ∧
    c.declaredName? = d.declaredName? ∧
    c.measure.1.name = c.declaredName?.getD s!"anon function @{c.node.label.row + 1}" ∧
    d.measure.1.name = d.declaredName?.getD s!"anon function @{d.node.label.row + 1}" := by
  have hrecord := functionRecord_eq_of_ownShape_eq h
  refine ⟨?_, hrecord, byShape_declaredName? c d h, functionName_eq c, functionName_eq d⟩
  intro hrow
  have hline : c.node.line = d.node.line := congrArg (· + 1) hrow
  have hname := functionName_eq_of_ownShape_eq h hline
  have hevents := measureEvents_eq_of_ownShape_eq h hline
  show (c.functionRecord, c.measureEvents) = (d.functionRecord, d.measureEvents)
  rw [hevents, hrecord, ← hname, ← hline]
  rfl

/-- A function without a name, with a branch that holds another such function: identities from `i`
on, the function on one row and its branch on another. -/
def anonymousBranch (i row inner : Nat) (field? : Option String) : Node :=
  .mk i { type := "function_expression", row, field? } [
    .mk (i + 1) { type := "statement_block", row, field? := some "body" } [
      .mk (i + 2) { type := "if_statement", row := inner } [
        .mk (i + 3) { type := "function_expression", row := inner } []]]]

/-- A statement that exports a value by default. -/
def exportOf (i : Nat) (n : Node) : Node :=
  .mk i { type := "export_statement", row := n.label.row }
    [.mk (i + 1) { type := "default", row := n.label.row, named := false } [], n]

/-- By itself the function is no declaration, and as the default export of a module it is one.  On
the same row its record is the same, and on another it differs in the line and the label. -/
theorem measure_eq_of_ownShape_eq_defaultExport :
    let near := anonymousBranch 12 0 5 (some "value")
    let far := anonymousBranch 22 7 8 (some "value")
    let c : Cursor := root (anonymousBranch 0 0 1 none)
    let d : Cursor := (root (exportOf 10 near)).down near
    let e : Cursor := (root (exportOf 20 far)).down far
    (c.node.ownShape = d.node.ownShape ∧ c.node.label.row = d.node.label.row ∧
      c.node.ownShape = e.node.ownShape) ∧
    c.isDeclaration = false ∧ d.isDeclaration = true ∧ e.isDeclaration = true ∧
    c.measure = d.measure ∧
    c.measure.1.name = "anon function @1" ∧
    e.measure.1 = { c.measure.1 with name := "anon function @8", startLine := 8 } := by
  intro near far c d e
  have hd : c.node.ownShape = d.node.ownShape := by decide
  have he : c.node.ownShape = e.node.ownShape := by decide
  have hrow : c.node.label.row = d.node.label.row := rfl
  have hname : c.measure.1.name = "anon function @1" := by decide
  have hlabel : e.measure.1.name = "anon function @8" := by decide
  refine ⟨⟨hd, hrow, he⟩, by decide, by decide, by decide, ?_, hname, ?_⟩
  · exact (measure_eq_of_ownShape_eq hd).1 hrow
  · calc
      e.measure.1 = { c.measure.1 with name := e.measure.1.name, startLine := 8 } :=
        (measure_eq_of_ownShape_eq he).2.1
      _ = { c.measure.1 with name := "anon function @8", startLine := 8 } :=
        congrArg (fun name => { c.measure.1 with name, startLine := 8 }) hlabel

end CodeMetrics.Cursor
