import CodeMetrics.Proofs.Metrics.File
import CodeMetrics.Proofs.Metrics.Function
import CodeMetrics.Proofs.Metrics.Functions
import CodeMetrics.Proofs.Tree.Comments

/-!
# Measures of a tree without some of its comments

Comments are named nodes like any other, so every rule that looks at children
could see them.  None of the rules for functions, imports and conditions does:

* **functions** — a declaration keeps its record
  (`Cursor.StripsTo.functionRecord_eq`): its name and its body are found by
  field, its parameters are counted without comments, and all else is a count
  or a maximum over the subtree;
* **file** — import calls and conditions are counted whatever the parent links
  say (`Cursor.scan_imports`, `Cursor.scan_conditions`), and stay the same
  (`Cursor.analyze_stripsTo`).
-/

namespace CodeMetrics

namespace Cursor

namespace StripsTo

variable {c d : Cursor}

/-! ## Functions -/

theorem functionName_eq (h : c.StripsTo d) : c.functionName = d.functionName := by
  unfold functionName
  rw [h.node.line_eq]
  rcases h.node.childUnder?_cases "name" with ⟨hc, hd⟩ | ⟨n, m, hc, hd, hnm⟩
  · rw [hc, hd]
  · rw [hc, hd, Option.bind_some, Option.bind_some, hnm.label_eq]

/-- Parameters are the named children that are not called comments, so those are the ones that may
go. -/
theorem parameterCount_eq (h : c.StripsTo d) : c.parameterCount = d.parameterCount := by
  unfold parameterCount
  rcases h.node.childUnder?_cases "parameters" with ⟨hc, hd⟩ | ⟨n, m, hc, hd, hnm⟩
  · rw [hc, hd]
  · rw [hc, hd]
    show (n.children.filter _).countP _ = (m.children.filter _).countP _
    -- both tests in one filter: no comment passes it
    rw [List.countP_filter, List.countP_filter, List.countP_eq_length_filter,
      List.countP_eq_length_filter]
    refine (hnm.children.filter ?_ ?_).length_eq
    · intro e he
      rw [he.type_eq]
      rfl
    · intro e f hef
      rw [hef.type_eq, hef.label_eq]

theorem tally_eq (h : c.StripsTo d) : c.tally = d.tally := by
  rw [Cursor.tally_eq, Cursor.tally_eq, FunctionTally.mk.injEq]
  refine ⟨?_, ?_, ?_, ?_, ?_⟩
  · exact commentBlind_isDecision.countP_subtree h
  · refine commentBlind_isDecision.peak_subtree ?_ h
    intro e f hef
    rw [commentBlind_isDecision.count_eq hef]
  · exact commentBlind_isConditional.peak_subtree (fun _ _ => commentBlind_isLogical.count_eq) h
  · exact commentBlind_isReturn.countP_subtree h
  · exact commentBlind_isMemberAccess.peak_subtree
      (fun _ _ => commentBlind_isMemberAccess.count_eq) h

theorem messageChain_eq (h : c.StripsTo d) : c.messageChain = d.messageChain := by
  rw [messageChain, messageChain, maxOver_eq_peak, maxOver_eq_peak]
  exact commentBlind_isMemberAccess.peak_subtree
    (fun _ _ => commentBlind_isMemberAccess.count_eq) h

theorem bodyChain_eq (h : c.StripsTo d) : c.bodyChain = d.bodyChain := by
  unfold bodyChain childUnder?
  rcases h.node.childUnder?_cases "body" with ⟨hc, hd⟩ | ⟨n, m, hc, hd, hnm⟩
  · rw [hc, hd, Option.map_none, Option.map_none]
  · rw [hc, hd]
    exact (h.down hnm).messageChain_eq

/-- A declaration keeps its record. -/
theorem functionRecord_eq (h : c.StripsTo d) : c.functionRecord = d.functionRecord := by
  unfold functionRecord
  rw [h.functionName_eq, h.node.line_eq, h.parameterCount_eq, h.tally_eq, h.bodyChain_eq]

/-- The declarations of the subtree are the same in the same order, and so is their table. -/
theorem scan_functions_eq (h : c.StripsTo d) (callee : String) :
    (c.scan callee).functions = (d.scan callee).functions := by
  rw [scan_functions, scan_functions, declarations, declarations,
    map_eq_of_forall₂ (commentBlind_isDeclaration.filter_subtree h)]
  intro e f hef
  rw [hef.functionName_eq, hef.functionRecord_eq]

/-! ## Imports and conditions -/

theorem isImportCall_eq (h : c.StripsTo d) (callee : String) :
    c.isImportCall callee = d.isImportCall callee := by
  rw [isImportCall_eq_any, isImportCall_eq_any, h.node.label_childUnder?]

theorem scan_imports_eq (h : c.StripsTo d) (callee : String) :
    (c.scan callee).counters.imports = (d.scan callee).counters.imports := by
  have hblind : CommentBlind (fun c => c.kind = .call ∧ c.isImportCall callee) := by
    constructor
    · intro e he
      simp [kind_of_type_comment he.type_eq]
    · intro e f hef
      rw [hef.kind_eq, hef.isImportCall_eq]
  rw [scan_imports, scan_imports, hblind.countP_subtree h]

theorem scan_conditions_eq (h : c.StripsTo d) (callee : String) :
    (c.scan callee).counters.conditions = (d.scan callee).counters.conditions := by
  rw [scan_conditions, scan_conditions,
    map_eq_of_forall₂ (commentBlind_isConditional.filter_subtree h)]
  intro e f hef
  rw [commentBlind_isLogical.count_eq hef]

end StripsTo

/-- Taking any comments out of a tree changes nothing in what its analysis says of the functions:
their names, the order of the names and the records under them.  The import calls and the
conditions of the file stay the same too. -/
theorem analyze_stripsTo {t u : Node} (h : t.StripsTo u) (path language callee : String) :
    let before := ((root t).analyze path language callee).1
    let after := ((root u).analyze path language callee).1
    after.functions = before.functions ∧
    after.file.packageComplexity = before.file.packageComplexity ∧
    after.file.allConditions = before.file.allConditions := by
  intro before after
  have hroot := stripsTo_root h
  refine ⟨(hroot.scan_functions_eq callee).symm, ?_, ?_⟩
  · exact (hroot.scan_imports_eq callee).symm
  · exact (hroot.scan_conditions_eq callee).symm

/-- A function with a branch, exported by default.  At three places, by number, something may stand
in front: of the function, of its parameter, and of the operator in the condition of the branch. -/
def exportedFunction (front : Nat → List Node) : Node :=
  .mk 0 { type := "program", row := 0 } [
    .mk 1 { type := "export_statement", row := 0 }
      (.mk 2 { type := "default", row := 0, named := false } [] :: front 3 ++ [
        .mk 4 { type := "function_expression", row := 0 } [
          .mk 5 { type := "formal_parameters", row := 0, field? := some "parameters" }
            (front 6 ++ [.mk 7 { type := "identifier", row := 0 } []]),
          .mk 8 { type := "if_statement", row := 1, field? := some "body" } [
            .mk 9 { type := "binary_expression", row := 1 } (front 10 ++ [
              .mk 11 { type := "&&", row := 1, named := false, field? := some "operator" }
                []])]]])]

/-- With a comment at each of the three places or with none, the function is the same. -/
theorem analyze_stripsTo_exportedFunction :
    let t := exportedFunction (fun i => [.mk i { type := "comment", row := 0 } []])
    let u := exportedFunction (fun _ => [])
    let before := ((root t).analyze "a.js" "javascript" "require").1
    let after := ((root u).analyze "a.js" "javascript" "require").1
    t.StripsTo u ∧
    before.functions = OrderedTable.ofList [("anon function @1",
      { name := "anon function @1", startLine := 1, parameterCount := 1, cyclomaticComplexity := 2,
        maxConditions := 1 })] ∧
    after.functions = before.functions ∧
    after.file.packageComplexity = before.file.packageComplexity ∧
    after.file.allConditions = before.file.allConditions := by
  intro t u before after
  have hcomment : ∀ i, (Node.mk i { type := "comment", row := 0 } []).IsComment :=
    fun _ => ⟨rfl, rfl, rfl, rfl⟩
  have hstrips : t.StripsTo u :=
    .mk (.keep (.mk (.keep (.mk .nil) (.drop (hcomment 3) (.keep (.mk
      (.keep (.mk (.drop (hcomment 6) (.keep (.mk .nil) .nil)))
      (.keep (.mk (.keep (.mk (.drop (hcomment 10) (.keep (.mk .nil) .nil))) .nil)) .nil)))
      .nil)))) .nil)
  have hfunctions : before.functions = OrderedTable.ofList [("anon function @1",
      { name := "anon function @1", startLine := 1, parameterCount := 1, cyclomaticComplexity := 2,
        maxConditions := 1 })] := by
    show ((root t).scan "require").functions = _
    rw [scan_functions]
    simp only [functionRecord_eq_subtreeMeasures]
    decide
  exact ⟨hstrips, hfunctions, analyze_stripsTo hstrips "a.js" "javascript" "require"⟩

end Cursor

end CodeMetrics
