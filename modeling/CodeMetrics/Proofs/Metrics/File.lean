import CodeMetrics.Metrics.Result
import CodeMetrics.Proofs.Metrics.Counts
import CodeMetrics.Proofs.Tree.Links
import Mathlib.Algebra.BigOperators.Ring.Finset

/-!
# File measures from the structure of the tree

The counters of a file are kept during one walk, and the test for import
specifiers reads two links of a table that this walk is still filling.  Where
identities are distinct neither shows in the outcome:

* `Cursor.ImportedWithin` — what an import call inside the subtree imports,
  said of the tree alone;
* **links** — for a node that is being visited the test gives the answer of
  the finished table (`DistinctIds.isImportSpecifier_at_visit`), and that is
  the answer of the tree (`DistinctIds.isImportSpecifier_iff`);
* **counters** — the counters of a list of nodes are counts and a sum
  (`FileTally.foldl_visit`); those of imports and conditions ask for no links
  (`scan_imports`, `scan_conditions`).
-/

namespace CodeMetrics

namespace Cursor

/-! ## What the tree says -/

/-- The node is a call of `callee`: its first child held as the function is an identifier with that
text. -/
def ImportCall (callee : String) (c : Cursor) : Prop :=
  c.kind = .call ∧
    ∃ f ∈ c.children.find? (fun d => d.node.label.field? == some "function"),
      f.node.type = "identifier" ∧ f.node.label.text? = some callee

/-- The node `s` is the first named child of an argument list that belongs to an import call, list
and call both inside the subtree at `r`. -/
def ImportedWithin (callee : String) (r s : Cursor) : Prop :=
  ∃ a ∈ s.parent?, a ∈ r.subtree ∧ a.node.type = "arguments" ∧
    (∃ call ∈ a.parent?, call ∈ r.subtree ∧ call.ImportCall callee) ∧
    a.namedChildren.head? = some s

instance (callee : String) (c : Cursor) : Decidable (c.ImportCall callee) :=
  inferInstanceAs (Decidable (_ ∧ ∃ _ ∈ _, _))

instance (callee : String) (r s : Cursor) : Decidable (ImportedWithin callee r s) :=
  inferInstanceAs (Decidable (∃ _ ∈ _, _ ∧ _ ∧ (∃ _ ∈ _, _) ∧ _))

/-- The record of a file with every counter said of the subtree as a whole: the strings that are not
imported by a call, the calls that import, and for every conditional the conditions it joins, at
least one. -/
def fileMeasures (r : Cursor) (path callee : String) : FileRecord where
  path := path
  strings := r.subtree.countP (fun s => s.kind = .stringLiteral ∧ ¬ ImportedWithin callee r s)
  packageComplexity := r.subtree.countP (fun c => c.ImportCall callee)
  allConditions :=
    (((r.subtree.filter isConditional).map (fun i => max 1 (i.subtree.countP isLogical))).sum : Nat)

/-- Of what is called the test looks at the label only. -/
theorem isImportCall_eq_any (callee : String) (c : Cursor) :
    c.isImportCall callee = ((c.node.childUnder? "function").map Node.label).any
      (fun l => l.type == "identifier" && l.text? == some callee) := by
  unfold isImportCall
  cases c.node.childUnder? "function" with
  | none => rfl
  | some f => rfl

theorem isImportCall_iff (callee : String) (c : Cursor) :
    c.isImportCall callee = true ↔
      ∃ f ∈ c.children.find? (fun d => d.node.label.field? == some "function"),
        f.node.type = "identifier" ∧ f.node.label.text? = some callee := by
  rw [← childUnder?_eq_find?, childUnder?, isImportCall]
  cases c.node.childUnder? "function" with
  | none => simp
  | some f => simp [down]

theorem importCall_iff {callee : String} {c : Cursor} :
    c.ImportCall callee ↔ c.kind = .call ∧ c.isImportCall callee = true := by
  rw [ImportCall, isImportCall_iff]

/-! ## What the links say -/

theorem isImportSpecifier_iff_links (callee : String) (links : Parents) (s : Cursor) :
    s.isImportSpecifier callee links = true ↔
      ∃ a ∈ links.parentOf? s, a.node.type = "arguments" ∧
        (∃ call ∈ links.parentOf? a, call.ImportCall callee) ∧
        ∃ first ∈ a.namedChildren.head?, first.id = s.id := by
  unfold isImportSpecifier namedChildren
  cases links.parentOf? s with
  | none => simp
  | some a =>
    cases hcall : links.parentOf? a with
    | none => simp [hcall]
    | some call =>
      cases hnamed : a.node.namedChildren with
      | nil => simp [hcall, hnamed]
      | cons first rest => simp [hcall, hnamed, importCall_iff, down, id, and_assoc]

/-- The test asks for two links only: that of the node, and that of what it leads to. -/
theorem isImportSpecifier_congr {callee : String} {links other : Parents} {s : Cursor}
    (hs : links.parentOf? s = other.parentOf? s)
    (ha : ∀ a ∈ other.parentOf? s, links.parentOf? a = other.parentOf? a) :
    s.isImportSpecifier callee links = s.isImportSpecifier callee other := by
  rw [Bool.eq_iff_iff, isImportSpecifier_iff_links, isImportSpecifier_iff_links, hs]
  refine exists_congr ?_
  intro a
  refine and_congr_right ?_
  intro hmem
  rw [ha a hmem]

/-- In the table of a walk from `r` a node of the subtree is linked to its parent, if the parent is
in the subtree too. -/
theorem DistinctIds.parentOf?_linkAll_eq_some_iff {r x p : Cursor} (distinct : r.DistinctIds)
    (hx : x ∈ r.subtree) :
    (Parents.empty.linkAll r.subtree).parentOf? x = some p ↔
      x.parent? = some p ∧ p ∈ r.subtree := by
  rw [distinct.parentOf?_linkAll_subtree _ hx, Parents.parentOf?_empty]
  by_cases hxr : x = r
  · rw [if_pos hxr]
    constructor
    · intro h
      cases h
    · rintro ⟨hp, hmem⟩
      exact absurd hmem (not_mem_subtree_of_parent? (hxr ▸ hp))
  · rw [if_neg hxr]
    constructor
    · intro hp
      obtain ⟨q, hq, hxq⟩ := (mem_subtree_iff.mp hx).resolve_left hxr
      rw [parent?_of_mem_children hxq, Option.some.injEq] at hp
      exact ⟨hp ▸ parent?_of_mem_children hxq, hp ▸ hq⟩
    · exact And.left

/-- While a node is being visited, the test gives the answer of the finished table. -/
theorem DistinctIds.isImportSpecifier_at_visit {r s : Cursor} {front back : List Cursor}
    (distinct : r.DistinctIds) (callee : String) (hsplit : r.subtree = front ++ s :: back) :
    s.isImportSpecifier callee (Parents.empty.linkAll front) =
      s.isImportSpecifier callee (Parents.empty.linkAll r.subtree) := by
  have hs : s ∈ r.subtree := by
    rw [hsplit]
    exact List.mem_append_right _ List.mem_cons_self
  refine isImportSpecifier_congr (distinct.parentOf?_linkAll_at_visit _ hsplit (.inl rfl)) ?_
  intro a ha
  obtain ⟨hpar, hmem⟩ := (distinct.parentOf?_linkAll_eq_some_iff hs).mp ha
  refine distinct.parentOf?_linkAll_at_visit _ hsplit (.inr ?_)
  -- the parent of the node stands in front of it
  rcases exists_parent_of_subtree_eq_append hsplit with rfl | ⟨p, hp, hsp⟩
  · exact absurd hmem (not_mem_subtree_of_parent? hpar)
  · rw [parent?_of_mem_children hsp, Option.some.injEq] at hpar
    exact hpar ▸ hp

/-- By the finished table the test says what the tree says. -/
theorem DistinctIds.isImportSpecifier_iff {r s : Cursor} (distinct : r.DistinctIds)
    (callee : String) (hs : s ∈ r.subtree) :
    s.isImportSpecifier callee (Parents.empty.linkAll r.subtree) = true ↔
      ImportedWithin callee r s := by
  rw [isImportSpecifier_iff_links]
  refine exists_congr ?_
  intro a
  simp only [Option.mem_def]
  rw [distinct.parentOf?_linkAll_eq_some_iff hs, and_assoc]
  refine and_congr_right ?_
  intro hpar
  refine and_congr_right ?_
  intro ha
  have hcalls : (∃ call, (Parents.empty.linkAll r.subtree).parentOf? a = some call ∧
      call.ImportCall callee) ↔
      ∃ call, a.parent? = some call ∧ call ∈ r.subtree ∧ call.ImportCall callee := by
    refine exists_congr ?_
    intro call
    rw [distinct.parentOf?_linkAll_eq_some_iff ha, and_assoc]
  have hfirst : (∃ first, a.namedChildren.head? = some first ∧ first.id = s.id) ↔
      a.namedChildren.head? = some s := by
    constructor
    · rintro ⟨first, hhead, hid⟩
      have hchild : first ∈ a.children := namedChildren_subset a (List.mem_of_head? hhead)
      have hfirst : first ∈ r.subtree := mem_subtree_trans ha (child_mem_subtree hchild)
      rw [hhead, distinct.eq_of_id_eq hfirst hs hid]
    · intro hhead
      exact ⟨s, hhead, rfl⟩
  rw [hcalls, hfirst]

end Cursor

/-! ## The counters -/

namespace FileTally

/-- Counting a conditional once, and then once more for each condition that it joins beyond the
first, is counting these conditions, and at least one. -/
theorem conditions_visit_eq_max (callee : String) (links : Parents) (t : FileTally) (c : Cursor) :
    (t.visit callee links c .conditional).conditions =
      t.conditions + (max 1 (c.count Cursor.isLogical) : Nat) := by
  simp only [visit]
  split
  · show t.conditions + 1 + ((c.count Cursor.isLogical : Int) - 1) = _
    omega
  · show t.conditions + 1 = _
    omega

/-- A visit changes each counter by a rule of its own. -/
theorem visit_eq (callee : String) (links : Parents) (t : FileTally) (c : Cursor) (kind : Kind) :
    t.visit callee links c kind =
      { strings := t.strings +
          (if kind = .stringLiteral ∧ ¬ c.isImportSpecifier callee links then 1 else 0 : Nat)
        imports := t.imports + (if kind = .call ∧ c.isImportCall callee then 1 else 0 : Nat)
        conditions := t.conditions +
          (if kind = .conditional then max 1 (c.count Cursor.isLogical) else 0 : Nat) } := by
  cases kind with
  | stringLiteral => by_cases h : c.isImportSpecifier callee links <;> simp [visit, h]
  | call => by_cases h : c.isImportCall callee <;> simp [visit, h]
  | conditional =>
    have hconditions := conditions_visit_eq_max callee links t c
    have hothers : (t.visit callee links c .conditional).strings = t.strings ∧
        (t.visit callee links c .conditional).imports = t.imports := by
      simp only [visit]
      split <;> exact ⟨rfl, rfl⟩
    generalize t.visit callee links c .conditional = next at hconditions hothers ⊢
    cases next
    simp_all
  | _ => simp [visit]

/-- The counters of a list of nodes, with one table for all of them. -/
theorem foldl_visit (callee : String) (links : Parents) (cs : List Cursor) (t : FileTally) :
    cs.foldl (fun t c => t.visit callee links c c.kind) t =
      { strings := t.strings + (cs.countP
          (fun s => s.kind = .stringLiteral ∧ ¬ s.isImportSpecifier callee links) : Nat)
        imports := t.imports +
          (cs.countP (fun c => c.kind = .call ∧ c.isImportCall callee) : Nat)
        conditions := t.conditions + (((cs.filter Cursor.isConditional).map
          (fun i => max 1 (i.count Cursor.isLogical))).sum : Nat) } := by
  induction cs generalizing t with
  | nil => simp
  | cons c rest ih =>
    rw [List.foldl_cons, ih, visit_eq]
    simp only [FileTally.mk.injEq, List.countP_cons, decide_eq_true_eq]
    refine ⟨by omega, by omega, ?_⟩
    rw [Int.add_assoc, ← Int.natCast_add]
    by_cases h : c.kind = .conditional
    · have hc : c.isConditional = true := beq_iff_eq.mpr h
      rw [if_pos h, List.filter_cons_of_pos hc, List.map_cons, List.sum_cons]
    · have hc : ¬ c.isConditional = true := fun hc => h (beq_iff_eq.mp hc)
      rw [if_neg h, List.filter_cons_of_neg hc, Nat.zero_add]

end FileTally

namespace Cursor

theorem visit_counters (callee : String) (links : Parents) (s : FileScan) (d : Cursor) :
    (s.visit callee links d).counters = s.counters.visit callee links d d.kind := by
  show FileTally.visit callee links (FileScan.counters _) d d.kind = _
  by_cases h : d.kind = .functionDeclaration
  · rw [if_pos h]
    rfl
  · rw [if_neg h]

/-- A counter that a visit changes without asking for links has after a scan the value that any
table of links would have given it. -/
theorem scan_counter_eq (counter : FileTally → Int) (gain : Cursor → Nat) {callee : String}
    (hvisit : ∀ links t d, counter (FileTally.visit callee links t d d.kind) = counter t + gain d)
    (r : Cursor) :
    counter (r.scan callee).counters =
      counter (r.subtree.foldl (fun t d => t.visit callee Parents.empty d d.kind) {}) := by
  have hwalk : counter (r.scan callee).counters =
      r.subtree.foldl (fun n d => n + (gain d : Int)) (counter {}) := by
    refine walk_state_hom (fun s : FileScan => counter s.counters) _ ?_ {}
    intro front d _ _ s
    show counter (s.visit callee _ d).counters = _
    rw [visit_counters, hvisit]
  rw [hwalk]
  exact List.foldl_hom counter (fun t d => (hvisit Parents.empty t d).symm)

theorem scan_imports (callee : String) (r : Cursor) :
    (r.scan callee).counters.imports =
      (r.subtree.countP (fun c => c.kind = .call ∧ c.isImportCall callee) : Nat) := by
  rw [scan_counter_eq FileTally.imports
    (fun d => if d.kind = .call ∧ d.isImportCall callee then 1 else 0)
    (fun links t d => by rw [FileTally.visit_eq]), FileTally.foldl_visit]
  exact Int.zero_add _

theorem scan_conditions (callee : String) (r : Cursor) :
    (r.scan callee).counters.conditions =
      (((r.subtree.filter isConditional).map (fun i => max 1 (i.count isLogical))).sum : Nat) := by
  rw [scan_counter_eq FileTally.conditions
    (fun d => if d.kind = .conditional then max 1 (d.count isLogical) else 0)
    (fun links t d => by rw [FileTally.visit_eq]), FileTally.foldl_visit]
  exact Int.zero_add _

/-- The counters of a scan are those of the pre-order with the finished table. -/
theorem DistinctIds.scan_counters {r : Cursor} (distinct : r.DistinctIds) (callee : String) :
    (r.scan callee).counters =
      r.subtree.foldl
        (fun t c => t.visit callee (Parents.empty.linkAll r.subtree) c c.kind) {} := by
  refine walk_state_hom FileScan.counters _ ?_ {}
  intro front d back hsplit s
  have hsame := distinct.isImportSpecifier_at_visit callee hsplit
  rw [visit_counters, FileTally.visit_eq, FileTally.visit_eq, hsame]

/-- The record of a file is that of the tree. -/
theorem DistinctIds.scan_record {r : Cursor} (distinct : r.DistinctIds) (path callee : String) :
    (r.scan callee).counters.record path = r.fileMeasures path callee := by
  have hstrings : r.subtree.countP (fun s => s.kind = .stringLiteral ∧
        ¬ s.isImportSpecifier callee (Parents.empty.linkAll r.subtree)) =
      r.subtree.countP (fun s => s.kind = .stringLiteral ∧ ¬ ImportedWithin callee r s) := by
    refine List.countP_congr ?_
    intro s hs
    rw [decide_eq_true_iff, decide_eq_true_iff, distinct.isImportSpecifier_iff callee hs]
  have himports : r.subtree.countP (fun c => c.kind = .call ∧ c.isImportCall callee) =
      r.subtree.countP (fun c => c.ImportCall callee) := by
    refine List.countP_congr ?_
    intro c _
    rw [decide_eq_true_iff, decide_eq_true_iff, importCall_iff]
  rw [distinct.scan_counters, FileTally.foldl_visit, count_eq_fun, hstrings, himports]
  simp only [FileTally.record, fileMeasures, Int.zero_add]

/-- A visitor that puts the test for import specifiers to every node it comes to gets the answers
that the finished table gives. -/
theorem DistinctIds.walk_isImportSpecifier {r : Cursor} (distinct : r.DistinctIds)
    (callee : String) :
    let asked := r.walk
      (fun links (log : List Bool) s => log ++ [s.isImportSpecifier callee links]) Parents.empty []
    asked.2 = r.subtree.map (fun s => s.isImportSpecifier callee asked.1) := by
  intro asked
  have hlog : asked.2 = r.subtree.foldl (fun log s =>
      log ++ [s.isImportSpecifier callee (Parents.empty.linkAll r.subtree)]) [] := by
    refine walk_state_hom (fun log => log) _ ?_ []
    intro front d back hsplit log
    rw [distinct.isImportSpecifier_at_visit callee hsplit]
  rw [hlog, List.foldl_append_eq_append, List.nil_append, ← List.flatMap_def,
    ← List.map_eq_flatMap, walk_links]

/-- Wherever in a tree with distinct identities the analysis starts, the record of the file is that
of the tree, and the test for import specifiers answers during the walk as it does after it. -/
theorem analyze_file_eq_fileMeasures (t : Node) (r : Cursor) (distinct : (root t).DistinctIds)
    (hr : r ∈ (root t).subtree) (path language callee : String) :
    (r.analyze path language callee).1.file = r.fileMeasures path callee ∧
    let asked := r.walk
      (fun links (log : List Bool) s => log ++ [s.isImportSpecifier callee links]) Parents.empty []
    asked.2 = r.subtree.map (fun s => s.isImportSpecifier callee asked.1) := by
  have hdistinct : r.DistinctIds := distinct.of_mem hr
  exact ⟨hdistinct.scan_record path callee, hdistinct.walk_isImportSpecifier callee⟩

/-- A branch with a call of `require` whose argument list holds two strings. -/
def requireBranch : Node :=
  .mk 1 { type := "if_statement", row := 0 } [
    .mk 2 { type := "call_expression", row := 0 } [
      .mk 3 { type := "identifier", row := 0, field? := some "function", text? := some "require" }
        [],
      .mk 4 { type := "arguments", row := 0, field? := some "arguments" } [
        .mk 5 { type := "(", row := 0, named := false } [],
        .mk 6 { type := "string", row := 0 } [],
        .mk 7 { type := "string", row := 0 } []]]]

/-- Started at the branch, the first of the two strings is what is imported. -/
theorem analyze_file_requireBranch :
    let program : Node := .mk 0 { type := "program", row := 0 } [requireBranch]
    let start : Cursor := (root program).down requireBranch
    (root program).DistinctIds ∧ start ∈ (root program).subtree ∧
      (start.analyze "a.js" "javascript" "require").1.file =
        { path := "a.js", strings := 1, packageComplexity := 1, allConditions := 1 } := by
  intro program start
  have hdistinct : (root program).DistinctIds := by decide
  have hstart : start ∈ (root program).subtree := by decide
  have hfile := (analyze_file_eq_fileMeasures program start hdistinct hstart "a.js" "javascript"
    "require").1
  refine ⟨hdistinct, hstart, hfile.trans ?_⟩
  decide

end Cursor

end CodeMetrics
