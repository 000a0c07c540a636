import CodeMetrics.Proofs.Metrics.File
import CodeMetrics.Proofs.Metrics.Functions
import CodeMetrics.Proofs.Metrics.Locality

/-!
# Programs put together

What stands at the top level of a program is measured part by part: the
analysis of a program with the parts `as ++ bs` is that of a program with the
parts `as` merged with that of one with the parts `bs`.

* **functions** — the record of a declaration does not depend on what lies
  above it (`byNode_functionRecord`), and a program declares what its parts do
  (`declarations_program`);
* **imports** — the rule for import specifiers looks two nodes up, and neither
  can be the program (`imported_hang_program`);
* **file** — the counters of a program are those of the list of its nodes
  (`fileMeasures_program`), which add up over parts;
* **merge** — tables of functions merge as ordered tables do
  (`analyze_program_append`).
-/

namespace CodeMetrics

/-! ## The program itself -/

namespace Node

variable {t : Node}

theorem kind_of_program (h : t.type = "program") : (Cursor.root t).kind = .other := by
  have htype : (Cursor.root t).node.type = "program" := h
  unfold Cursor.kind
  rw [htype]
  by_cases hnamed : (Cursor.root t).node.label.named
  · rw [if_pos hnamed]
    rfl
  · rw [if_neg hnamed]

theorem exportsDefault_of_program (h : t.type = "program") : t.exportsDefault = false := by
  unfold exportsDefault
  rw [h]
  rfl

end Node

namespace Cursor

variable {t : Node}

/-- A program declares what its parts declare. -/
theorem declarations_program (h : t.type = "program") :
    (root t).declarations.map (fun d => (d.functionName, d.functionRecord)) =
      ((Node.listing t.children).filter isDeclaration).map
        (fun d => (d.functionName, d.functionRecord)) := by
  have hroot : ¬ (root t).isDeclaration = true := by
    unfold isDeclaration
    rw [Node.kind_of_program h]
    decide
  rw [declarations,
    filter_subtree_root hroot (isDeclaration_hang (Node.exportsDefault_of_program h)), List.map_map]
  refine List.map_congr_left ?_
  intro d _
  rw [Function.comp_apply, byNode_functionRecord.hang]
  rfl

/-! ## Imports -/

/-- The node is the first named child of an argument list that belongs to an import call. -/
def Imported (callee : String) (s : Cursor) : Prop :=
  ∃ a ∈ s.parent?, a.node.type = "arguments" ∧ (∃ call ∈ a.parent?, call.ImportCall callee) ∧
    a.namedChildren.head? = some s

instance (callee : String) (s : Cursor) : Decidable (Imported callee s) :=
  inferInstanceAs (Decidable (∃ _ ∈ _, _ ∧ (∃ _ ∈ _, _) ∧ _))

theorem parent?_mem_subtree_root {s p : Cursor} (hs : s ∈ (root t).subtree)
    (hp : s.parent? = some p) : p ∈ (root t).subtree := by
  rcases mem_subtree_iff.mp hs with rfl | ⟨q, hq, hsq⟩
  · cases hp
  · rw [parent?_of_mem_children hsq, Option.some.injEq] at hp
    exact hp ▸ hq

/-- From the root of a tree on, nothing above a node is out of sight. -/
theorem importedWithin_root_iff (callee : String) {s : Cursor} (hs : s ∈ (root t).subtree) :
    ImportedWithin callee (root t) s ↔ Imported callee s := by
  constructor
  · rintro ⟨a, ha, _, htype, ⟨call, hcall, _, himport⟩, hfirst⟩
    exact ⟨a, ha, htype, ⟨call, hcall, himport⟩, hfirst⟩
  · rintro ⟨a, ha, htype, ⟨call, hcall, himport⟩, hfirst⟩
    have har : a ∈ (root t).subtree := parent?_mem_subtree_root hs ha
    exact ⟨a, ha, har, htype, ⟨call, hcall, parent?_mem_subtree_root har hcall, himport⟩, hfirst⟩

theorem importCall_hang (callee : String) (path : List Node) (c : Cursor) :
    (c.hang path).ImportCall callee ↔ c.ImportCall callee := by
  have hkind : (c.hang path).kind = .call ↔ c.kind = .call :=
    kind_eq_iff_of_node_eq (hang_node path c) (by decide) (by decide)
  rw [importCall_iff, importCall_iff, hkind]
  exact Iff.rfl

/-- A program is no call. -/
theorem not_importCall_program (h : t.type = "program") (callee : String) :
    ¬ (root t).ImportCall callee := by
  intro hcall
  have hkind := hcall.1
  rw [Node.kind_of_program h] at hkind
  cases hkind

/-- Neither the argument list nor the call can be the program, so hanging a tree under a program
changes nothing in what is imported. -/
theorem imported_hang_program (h : t.type = "program") (callee : String) (s : Cursor) :
    Imported callee (s.hang [t]) ↔ Imported callee s := by
  have hnotCall := not_importCall_program h callee
  have hnotList : (root t).node.type ≠ "arguments" := by
    show t.type ≠ "arguments"
    rw [h]
    decide
  constructor
  · rintro ⟨a, ha, htype, ⟨call, hcall, himport⟩, hfirst⟩
    -- the argument list is the program or lies in the part, and so does the call
    cases hparent : s.parent? with
    | none =>
      rw [parent?_hang_root hparent, Option.mem_def, Option.some.injEq] at ha
      exact absurd (ha ▸ htype) hnotList
    | some b =>
      rw [parent?_hang hparent, Option.mem_def, Option.some.injEq] at ha
      subst ha
      cases hnext : b.parent? with
      | none =>
        rw [parent?_hang_root hnext, Option.mem_def, Option.some.injEq] at hcall
        exact absurd (hcall ▸ himport) hnotCall
      | some e =>
        rw [parent?_hang hnext, Option.mem_def, Option.some.injEq] at hcall
        subst hcall
        rw [namedChildren_hang, List.head?_map, Option.map_eq_some_iff] at hfirst
        obtain ⟨first, hfirst, hsame⟩ := hfirst
        exact ⟨b, hparent, htype, ⟨e, hnext, (importCall_hang callee [t] e).mp himport⟩,
          hfirst.trans (congrArg some (hang_injective [t] hsame))⟩
  · rintro ⟨a, ha, htype, ⟨call, hcall, himport⟩, hfirst⟩
    refine ⟨a.hang [t], parent?_hang ha, htype,
      ⟨call.hang [t], parent?_hang hcall, (importCall_hang callee [t] call).mpr himport⟩, ?_⟩
    rw [namedChildren_hang, List.head?_map, hfirst, Option.map_some]

/-! ## The record of a file -/

/-- The record that a list of nodes amounts to, each node with what lies above it. -/
def listingMeasures (cs : List Cursor) (path callee : String) : FileRecord where
  path := path
  strings := cs.countP (fun s => s.kind = .stringLiteral ∧ ¬ Imported callee s)
  packageComplexity := cs.countP (fun c => c.ImportCall callee)
  allConditions :=
    (((cs.filter isConditional).map (fun i => max 1 (i.subtree.countP isLogical))).sum : Nat)

/-- Counters add up over parts of a list. -/
theorem listingMeasures_append (as bs : List Cursor) (path callee : String) :
    listingMeasures (as ++ bs) path callee =
      let a := listingMeasures as path callee
      let b := listingMeasures bs path callee
      { path, strings := a.strings + b.strings,
        packageComplexity := a.packageComplexity + b.packageComplexity,
        allConditions := a.allConditions + b.allConditions } := by
  simp only [listingMeasures, List.countP_append, List.filter_append, List.map_append,
    List.sum_append, Nat.cast_add]

/-- The strings that a tree has beside those that its calls import. -/
theorem strings_root (t : Node) (callee : String) :
    (root t).subtree.countP
        (fun s => s.kind = .stringLiteral ∧ ¬ ImportedWithin callee (root t) s) =
      (root t).subtree.countP (fun s => s.kind = .stringLiteral ∧ ¬ Imported callee s) := by
  refine List.countP_congr ?_
  intro s hs
  rw [decide_eq_true_iff, decide_eq_true_iff, importedWithin_root_iff callee hs]

theorem strings_program (h : t.type = "program") (callee : String) :
    (root t).subtree.countP
        (fun s => s.kind = .stringLiteral ∧ ¬ ImportedWithin callee (root t) s) =
      (Node.listing t.children).countP
        (fun s => s.kind = .stringLiteral ∧ ¬ Imported callee s) := by
  rw [strings_root]
  refine countP_subtree_root ?_ ?_
  · rw [decide_eq_true_iff, Node.kind_of_program h]
    intro hstring
    cases hstring.1
  · intro s
    rw [decide_eq_decide, imported_hang_program h,
      kind_eq_iff_of_node_eq (hang_node [t] s) (by decide) (by decide)]

theorem imports_program (h : t.type = "program") (callee : String) :
    (root t).subtree.countP (fun c => c.ImportCall callee) =
      (Node.listing t.children).countP (fun c => c.ImportCall callee) := by
  refine countP_subtree_root ?_ ?_
  · rw [decide_eq_true_iff]
    exact not_importCall_program h callee
  · intro c
    rw [decide_eq_decide, importCall_hang]

theorem conditions_program (h : t.type = "program") :
    ((root t).subtree.filter isConditional).map (fun i => max 1 (i.subtree.countP isLogical)) =
      ((Node.listing t.children).filter isConditional).map
        (fun i => max 1 (i.subtree.countP isLogical)) := by
  have hroot : ¬ (root t).isConditional = true := by
    unfold isConditional
    rw [Node.kind_of_program h]
    decide
  rw [filter_subtree_root hroot (byNode_isConditional.hang [t]), List.map_map]
  refine List.map_congr_left ?_
  intro i _
  exact congrArg (max 1) (byNode_isLogical.countP_subtree.hang [t] i)

/-- The record of a program is that of the nodes of its parts. -/
theorem fileMeasures_program (h : t.type = "program") (path callee : String) :
    (root t).fileMeasures path callee =
      listingMeasures (Node.listing t.children) path callee := by
  unfold fileMeasures listingMeasures
  rw [strings_program h, imports_program h, conditions_program h]

/-! ## Merging -/

/-- The table of a program is written by the declarations of its parts. -/
theorem scan_functions_program (h : t.type = "program") (callee : String) :
    ((root t).scan callee).functions = OrderedTable.ofList
      (((Node.listing t.children).filter isDeclaration).map
        (fun d => (d.functionName, d.functionRecord))) := by
  rw [scan_functions, declarations_program h]

/-- Let the parts of a program be those of two others, one after the other.  Its analysis is put
together from theirs.  The counters add up.  The functions of the first are overridden by those of
the second: known names keep their places, new ones go to the end, and the record of the second is
taken wherever it has one. -/
theorem analyze_program_append {t a b : Node} (ht : t.type = "program") (ha : a.type = "program")
    (hb : b.type = "program") (parts : t.children = a.children ++ b.children)
    (distinct : (root t).DistinctIds) (distinctA : (root a).DistinctIds)
    (distinctB : (root b).DistinctIds) (path language callee : String) :
    let whole := ((root t).analyze path language callee).1
    let first := ((root a).analyze path language callee).1
    let second := ((root b).analyze path language callee).1
    whole =
      { file :=
          { path
            strings := first.file.strings + second.file.strings
            packageComplexity := first.file.packageComplexity + second.file.packageComplexity
            allConditions := first.file.allConditions + second.file.allConditions }
        language
        functions := first.functions.update second.functions } ∧
    whole.functions.keys =
      first.functions.keys ++ second.functions.keys.filter (· ∉ first.functions.keys) ∧
    ∀ name, whole.functions.get? name =
      (second.functions.get? name).or (first.functions.get? name) := by
  intro whole first second
  have hfile : whole.file = listingMeasures (Node.listing t.children) path callee :=
    (distinct.scan_record path callee).trans (fileMeasures_program ht path callee)
  have hfirst : first.file = listingMeasures (Node.listing a.children) path callee :=
    (distinctA.scan_record path callee).trans (fileMeasures_program ha path callee)
  have hsecond : second.file = listingMeasures (Node.listing b.children) path callee :=
    (distinctB.scan_record path callee).trans (fileMeasures_program hb path callee)
  have hfunctions : whole.functions = first.functions.update second.functions := by
    show ((root t).scan callee).functions =
      ((root a).scan callee).functions.update ((root b).scan callee).functions
    rw [scan_functions_program ht, scan_functions_program ha, scan_functions_program hb,
      ← OrderedTable.ofList_append, ← List.map_append, ← List.filter_append, parts,
      Node.listing_append]
  have hkeys : second.functions.keys.Nodup := by
    show ((root b).scan callee).functions.keys.Nodup
    rw [scan_functions]
    exact OrderedTable.nodup_keys_ofList _
  refine ⟨?_, ?_, ?_⟩
  · have hwhole : whole = ⟨whole.file, language, whole.functions⟩ := rfl
    rw [hwhole, hfunctions, hfile, hfirst, hsecond, parts, Node.listing_append,
      listingMeasures_append]
  · rw [hfunctions, OrderedTable.keys_update _ hkeys]
  · intro name
    rw [hfunctions, OrderedTable.get?_update _ hkeys]

/-- A declaration of `name` with nothing in its body. -/
def emptyDeclaration (i row : Nat) (name : String) : Node :=
  .mk i { type := "function_declaration", row } [
    .mk (i + 1) { type := "identifier", row, field? := some "name", text? := some name } [],
    .mk (i + 2) { type := "statement_block", row, field? := some "body" } []]

/-- The first part imports a module and declares `f`, and the second declares `g` and `f` again: `f`
keeps its place in front of `g` and has the record of the second part. -/
theorem analyze_program_append_sameName :
    let a : Node := .mk 0 { type := "program", row := 0 }
      [requireBranch, emptyDeclaration 11 0 "f"]
    let b : Node := .mk 20 { type := "program", row := 0 }
      [emptyDeclaration 21 1 "g", emptyDeclaration 24 2 "f"]
    let t : Node := .mk 30 { type := "program", row := 0 } (a.children ++ b.children)
    let whole := ((root t).analyze "a.js" "javascript" "require").1
    (t.type = "program" ∧ a.type = "program" ∧ b.type = "program" ∧
      t.children = a.children ++ b.children) ∧
    ((root t).DistinctIds ∧ (root a).DistinctIds ∧ (root b).DistinctIds) ∧
    whole.file = { path := "a.js", strings := 1, packageComplexity := 1, allConditions := 1 } ∧
    whole.functions.keys = ["f", "g"] ∧
    (whole.functions.get? "f").map (·.startLine) = some 3 := by
  intro a b t whole
  have htypes : t.type = "program" ∧ a.type = "program" ∧ b.type = "program" ∧
      t.children = a.children ++ b.children := ⟨rfl, rfl, rfl, rfl⟩
  have hdistinct : (root t).DistinctIds ∧ (root a).DistinctIds ∧ (root b).DistinctIds := by decide
  obtain ⟨hwhole, hkeys, hvalues⟩ := analyze_program_append htypes.1 htypes.2.1 htypes.2.2.1
    htypes.2.2.2 hdistinct.1 hdistinct.2.1 hdistinct.2.2 "a.js" "javascript" "require"
  have hfirstFile : ((root a).analyze "a.js" "javascript" "require").1.file =
      { path := "a.js", strings := 1, packageComplexity := 1, allConditions := 1 } :=
    (hdistinct.2.1.scan_record _ _).trans (by decide)
  have hsecondFile : ((root b).analyze "a.js" "javascript" "require").1.file = { path := "a.js" } :=
    (hdistinct.2.2.scan_record _ _).trans (by decide)
  have hfirst : ((root a).analyze "a.js" "javascript" "require").1.functions.keys = ["f"] := by
    show ((root a).scan "require").functions.keys = _
    rw [scan_functions, OrderedTable.keys_ofList]
    decide
  have hsecond : ((root b).analyze "a.js" "javascript" "require").1.functions.keys =
      ["g", "f"] := by
    show ((root b).scan "require").functions.keys = _
    rw [scan_functions, OrderedTable.keys_ofList]
    decide
  have hrecord : (((root b).analyze "a.js" "javascript" "require").1.functions.get? "f") =
      some ((root b).down (emptyDeclaration 24 2 "f")).functionRecord := by
    show ((root b).scan "require").functions.get? "f" = _
    rw [scan_functions, OrderedTable.get?_ofList]
    rfl
  refine ⟨htypes, hdistinct, ?_, ?_, ?_⟩
  · refine (congrArg Analysis.file hwhole).trans ?_
    rw [hfirstFile, hsecondFile]
    rfl
  · refine hkeys.trans ?_
    rw [hfirst, hsecond]
    decide
  · refine (congrArg (Option.map (·.startLine)) (hvalues "f")).trans ?_
    rw [hrecord]
    rfl

end Cursor

end CodeMetrics
