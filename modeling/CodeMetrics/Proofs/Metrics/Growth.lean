import CodeMetrics.Proofs.Metrics.Conditions
import CodeMetrics.Proofs.Metrics.Function
import CodeMetrics.Proofs.Tree.Growth
import Mathlib.Algebra.Order.BigOperators.Group.List
import Mathlib.Algebra.Order.Group.Nat

/-!
# Measures of a tree that has grown

What a tree grows by adds to its measures and takes nothing from them.

* **counts and maxima** — what label and operator settle is counted again in the
  grown tree, so counts, maxima and sums over a subtree do not fall
  (`Cursor.GrowsTo.countP_subtree_le`, `Cursor.GrowsTo.peak_subtree_le`);
* **functions** — parameters and body are found by field, and what is found has
  grown like any other node (`Cursor.GrowsTo.functionRecord_le`);
* **file** — nothing that was there becomes an import specifier
  (`Cursor.GrowsTo.importedWithin`), so no string is lost either
  (`Cursor.GrowsTo.strings_le`);
* **grafts** — one subtree put behind the children of any node is a case of
  growth (`Cursor.measures_le_graft`).
-/

namespace CodeMetrics.Cursor

namespace GrowsTo

variable {c d : Cursor}

/-! ## Counts and maxima -/

section

variable {q : Cursor → Bool} {weight : Cursor → Nat}

theorem countP_subtree_le (hq : ByLabel q) (h : c.GrowsTo d) :
    c.subtree.countP q ≤ d.subtree.countP q := by
  refine countP_le_of_sublistForall₂ h.subtree ?_
  intro e _ f _ hef he
  rwa [← hef.eq_of_byLabel hq]

theorem count_le (hq : ByLabel q) (h : c.GrowsTo d) : c.count q ≤ d.count q := by
  rw [count_eq_countP, count_eq_countP]
  exact h.countP_subtree_le hq

variable (hq : ByLabel q) (hweight : ∀ {e f : Cursor}, e.GrowsTo f → weight e ≤ weight f)

include hq hweight

theorem peak_subtree_le (h : c.GrowsTo d) :
    peak q weight c.subtree ≤ peak q weight d.subtree := by
  apply peak_le
  intro e he hqe
  obtain ⟨f, hf, hef⟩ := exists_mem_of_sublistForall₂ h.subtree he
  have hqf : q f := hef.eq_of_byLabel hq ▸ hqe
  exact (hweight hef).trans (le_peak hf hqf)

theorem sum_subtree_le (h : c.GrowsTo d) :
    ((c.subtree.filter q).map weight).sum ≤ ((d.subtree.filter q).map weight).sum := by
  obtain ⟨ds, hds, hsub⟩ := List.sublistForall₂_iff.mp h.subtree
  have hfilter : List.Forall₂ GrowsTo (c.subtree.filter q) (ds.filter q) := by
    refine List.rel_filter ?_ hds
    intro e f hef
    show q e ↔ q f
    rw [hef.eq_of_byLabel hq]
  have hweights : List.Forall₂ (· ≤ ·) ((c.subtree.filter q).map weight)
      ((ds.filter q).map weight) :=
    List.rel_map (fun _ _ hef => hweight hef) hfilter
  calc ((c.subtree.filter q).map weight).sum
      ≤ ((ds.filter q).map weight).sum := hweights.sum_le_sum
    _ ≤ ((d.subtree.filter q).map weight).sum :=
        ((hsub.filter q).map weight).sum_le_sum fun _ _ => Nat.zero_le _

end

/-! ## Functions -/

theorem tally_le (h : c.GrowsTo d) :
    c.tally.decisions ≤ d.tally.decisions ∧ c.tally.nesting ≤ d.tally.nesting ∧
    c.tally.conditions ≤ d.tally.conditions ∧ c.tally.returns ≤ d.tally.returns := by
  rw [Cursor.tally_eq, Cursor.tally_eq]
  refine ⟨?_, ?_, ?_, ?_⟩
  · exact h.countP_subtree_le byLabel_isDecision
  · refine h.peak_subtree_le byLabel_isDecision ?_
    intro e f hef
    exact Nat.sub_le_sub_right (hef.count_le byLabel_isDecision) 1
  · exact h.peak_subtree_le byLabel_isConditional (·.count_le byLabel_isLogical)
  · exact h.countP_subtree_le byLabel_isReturn

theorem parameterCount_le (h : c.GrowsTo d) : c.parameterCount ≤ d.parameterCount := by
  unfold parameterCount
  rcases h.node.childUnder?_cases "parameters" with ⟨hc, hd⟩ | ⟨n, m, hc, hd, hnm⟩
  · rw [hc, hd]
  · rw [hc, hd]
    obtain ⟨old, new, hnamed, hold⟩ := hnm.namedChildren
    have hparameters : n.namedChildren.countP (·.type != "comment") ≤
        m.namedChildren.countP (·.type != "comment") := by
      rw [hnamed]
      refine countP_le_of_sublistForall₂
        (sublistForall₂_append_right (sublistForall₂_of_forall₂ hold) new) ?_
      intro x _ y _ hxy hx
      rwa [← hxy.type_eq]
    exact hparameters

theorem bodyChain_le (h : c.GrowsTo d) : c.bodyChain ≤ d.bodyChain := by
  unfold bodyChain childUnder?
  rcases h.node.childUnder?_cases "body" with ⟨hc, hd⟩ | ⟨n, m, hc, hd, hnm⟩
  · rw [hc, hd, Option.map_none, Option.map_none]
  · rw [hc, hd]
    show (c.down n).messageChain ≤ (d.down m).messageChain
    rw [messageChain, messageChain, maxOver_eq_peak, maxOver_eq_peak]
    exact (h.down hnm).peak_subtree_le byLabel_isMemberAccess (·.count_le byLabel_isMemberAccess)

/-- No count of a record falls. -/
theorem functionRecord_le (h : c.GrowsTo d) :
    c.functionRecord.parameterCount ≤ d.functionRecord.parameterCount ∧
    c.functionRecord.cyclomaticComplexity ≤ d.functionRecord.cyclomaticComplexity ∧
    c.functionRecord.maxNestingDepth ≤ d.functionRecord.maxNestingDepth ∧
    c.functionRecord.maxConditions ≤ d.functionRecord.maxConditions ∧
    c.functionRecord.returns ≤ d.functionRecord.returns ∧
    c.functionRecord.maxMessageChains ≤ d.functionRecord.maxMessageChains := by
  obtain ⟨hdecisions, hnesting, hconditions, hreturns⟩ := h.tally_le
  have hparameters := h.parameterCount_le
  have hchains := h.bodyChain_le
  simp only [functionRecord]
  omega

/-! ## Imports -/

theorem isImportCall_eq (h : c.GrowsTo d) (callee : String) :
    c.isImportCall callee = d.isImportCall callee := by
  rw [isImportCall_eq_any, isImportCall_eq_any, h.node.label_childUnder?]

theorem importCall_iff (h : c.GrowsTo d) (callee : String) :
    c.ImportCall callee ↔ d.ImportCall callee := by
  rw [Cursor.importCall_iff, Cursor.importCall_iff, h.isImportCall_eq,
    h.kind_eq_iff (by decide) (by decide)]

/-- A named child that comes first in the grown list came first before, since what is new comes
last. -/
theorem head?_namedChildren_of_head? {s s' : Cursor} (h : c.GrowsTo d) (distinct : c.DistinctIds)
    (hs : s ∈ c.namedChildren) (hss : s.GrowsTo s') (hfirst : d.namedChildren.head? = some s') :
    c.namedChildren.head? = some s := by
  obtain ⟨first, hhead⟩ :=
    Option.isSome_iff_exists.mp (List.isSome_head?.mpr (List.ne_nil_of_mem hs))
  obtain ⟨first', hhead', hff⟩ := h.head?_namedChildren hhead
  have hsame : first' = s' := Option.some.inj (hhead'.symm.trans hfirst)
  have hid : first.id = s.id := by rw [hff.id_eq, hsame, hss.id_eq]
  have hmem : ∀ x ∈ c.namedChildren, x ∈ c.subtree :=
    fun x hx => child_mem_subtree (namedChildren_subset c hx)
  rw [hhead, distinct.eq_of_id_eq (hmem first (List.mem_of_head? hhead)) (hmem s hs) hid]

/-- What an import call of the grown subtree imports it imported before, if it was there: so were
the argument list and the call. -/
theorem importedWithin {callee : String} {s s' : Cursor} (h : c.GrowsTo d)
    (distinct : c.DistinctIds) (hs : s ∈ c.subtree) (hss : s.GrowsTo s')
    (hstring : s.kind = .stringLiteral) (himported : ImportedWithin callee d s') :
    ImportedWithin callee c s := by
  obtain ⟨a', ha', hmem', htype, ⟨call', hcall', hcallmem', himport⟩, hfirst⟩ := himported
  obtain ⟨a, hmem, ha, haa⟩ := h.exists_parent hs hss ha' hmem'
  obtain ⟨call, hcallmem, hcall, hcc⟩ := h.exists_parent hmem haa hcall' hcallmem'
  have hnamed : s ∈ a.namedChildren :=
    mem_namedChildren_iff.mpr ⟨mem_children_of_parent? hs hmem ha,
      named_of_kind_ne_other (by rw [hstring]; decide)⟩
  exact ⟨a, ha, hmem, haa.node.type_eq.trans htype,
    ⟨call, hcall, hcallmem, (hcc.importCall_iff callee).mpr himport⟩,
    haa.head?_namedChildren_of_head? (distinct.of_mem hmem) hnamed hss hfirst⟩

/-! ## Files -/

theorem scan_imports_le (h : c.GrowsTo d) (callee : String) :
    (c.scan callee).counters.imports ≤ (d.scan callee).counters.imports := by
  rw [scan_imports, scan_imports]
  refine Int.ofNat_le.mpr (countP_le_of_sublistForall₂ h.subtree ?_)
  intro e _ f _ hef
  rw [decide_eq_true_iff, decide_eq_true_iff, ← Cursor.importCall_iff, ← Cursor.importCall_iff,
    hef.importCall_iff]
  exact fun himport => himport

theorem scan_conditions_le (h : c.GrowsTo d) (callee : String) :
    (c.scan callee).counters.conditions ≤ (d.scan callee).counters.conditions := by
  rw [scan_conditions, scan_conditions]
  refine Int.ofNat_le.mpr (h.sum_subtree_le byLabel_isConditional ?_)
  intro e f hef
  exact max_le_max (Nat.le_refl 1) (hef.count_le byLabel_isLogical)

/-- A string that is counted is counted in the grown tree. -/
theorem strings_le (h : c.GrowsTo d) (distinct : d.DistinctIds) (path callee : String) :
    (c.fileMeasures path callee).strings ≤ (d.fileMeasures path callee).strings := by
  refine Int.ofNat_le.mpr (countP_le_of_sublistForall₂ h.subtree ?_)
  intro s hs s' _ hss
  rw [decide_eq_true_iff, decide_eq_true_iff]
  rintro ⟨hstring, hcounted⟩
  refine ⟨(hss.kind_eq_iff (by decide) (by decide)).mp hstring, ?_⟩
  intro himported
  exact hcounted (h.importedWithin (h.distinctIds distinct) hs hss hstring himported)

end GrowsTo

/-! ## Grafts -/

/-- Let one subtree, held under no field, be put behind the children of some node.  Every node that
was there is still at its position, with its identity, and none of the counts that measuring it
gives falls.  Nor do the import calls and the conditions of the file whose analysis starts at it;
and if no identity occurs twice, nor do the strings. -/
theorem measures_le_graft {n : Node} (hfield : n.label.field? = none) (t : Node) (p q : List Nat)
    {c : Cursor} (hc : (root t).at? q = some c) (path language callee : String) :
    ∃ d, (root (t.graft p n)).at? q = some d ∧ d.id = c.id ∧
      (let before := c.measure.1
      let after := d.measure.1
      before.parameterCount ≤ after.parameterCount ∧
      before.cyclomaticComplexity ≤ after.cyclomaticComplexity ∧
      before.maxNestingDepth ≤ after.maxNestingDepth ∧
      before.maxConditions ≤ after.maxConditions ∧
      before.returns ≤ after.returns ∧
      before.maxMessageChains ≤ after.maxMessageChains) ∧
      (let before := (c.analyze path language callee).1.file
      let after := (d.analyze path language callee).1.file
      before.packageComplexity ≤ after.packageComplexity ∧
      before.allConditions ≤ after.allConditions ∧
      ((root (t.graft p n)).DistinctIds → before.strings ≤ after.strings)) := by
  have hroot : (root t).GrowsTo (root (t.graft p n)) :=
    growsTo_root (Node.growsTo_graft hfield t p)
  obtain ⟨d, hd, hcd⟩ := hroot.at? hc
  refine ⟨d, hd, hcd.id_eq.symm, hcd.functionRecord_le, ?_, ?_, ?_⟩
  · exact hcd.scan_imports_le callee
  · exact hcd.scan_conditions_le callee
  · intro distinct
    have hdistinct : d.DistinctIds := distinct.of_mem (mem_subtree_of_at? hd)
    have hbefore : (c.analyze path language callee).1.file = c.fileMeasures path callee :=
      (hcd.distinctIds hdistinct).scan_record path callee
    have hafter : (d.analyze path language callee).1.file = d.fileMeasures path callee :=
      hdistinct.scan_record path callee
    rw [hbefore, hafter]
    exact hcd.strings_le hdistinct path callee

/-- A third string among the arguments of a call of `require`: the branch that holds the call stays
a branch, and the string that was counted is counted still. -/
theorem measures_le_graft_requireBranch :
    let t : Node := .mk 0 { type := "program", row := 0 } [requireBranch]
    let third : Node := .mk 8 { type := "string", row := 0 } []
    let grown := t.graft [0, 0, 1] third
    (root grown).DistinctIds ∧
    ∃ d, (root grown).at? [0] = some d ∧ d.id = 1 ∧ 2 ≤ d.measure.1.cyclomaticComplexity ∧
      1 ≤ (d.analyze "a.js" "javascript" "require").1.file.strings := by
  intro t third grown
  let c : Cursor := (root t).down requireBranch
  have hdistinct : (root grown).DistinctIds := by decide
  have hcomplexity : c.measure.1.cyclomaticComplexity = 2 := by
    show c.functionRecord.cyclomaticComplexity = 2
    rw [functionRecord_eq_subtreeMeasures]
    decide
  have hstrings : (c.analyze "a.js" "javascript" "require").1.file.strings = 1 := by
    have hbefore : c.DistinctIds := by decide
    exact (congrArg FileRecord.strings (hbefore.scan_record "a.js" "require")).trans (by decide)
  obtain ⟨d, hd, hid, ⟨_, hcyclomatic, _⟩, _, _, hcounted⟩ :=
    measures_le_graft (n := third) rfl t [0, 0, 1] [0] (c := c) rfl "a.js" "javascript" "require"
  have hcounted := hcounted hdistinct
  rw [hcomplexity] at hcyclomatic
  rw [hstrings] at hcounted
  exact ⟨hdistinct, d, hd, hid, hcyclomatic, hcounted⟩

end CodeMetrics.Cursor
