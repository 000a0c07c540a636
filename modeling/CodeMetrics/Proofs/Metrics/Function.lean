import CodeMetrics.Metrics.Function
import CodeMetrics.Proofs.Metrics.Counts

/-!
# Function measures as counts and maxima

One walk keeps five numbers of a declaration and starts further walks on the
way.  Each number is a plain count or a plain maximum over the subtree:

* `FunctionTally.foldl_visit` — the tally of any list of nodes;
* `Cursor.subtreeMeasures` — the record with every measure said of the subtree
  as a whole, and `Cursor.functionRecord_eq_subtreeMeasures`;
* `FunctionRecord.check?_eq_none_iff` — which records pass the check.
-/

namespace CodeMetrics

/-! ## The tally -/

namespace FunctionTally

/-- A visit changes each number by a rule of its own. -/
theorem visit_eq (t : FunctionTally) (c : Cursor) :
    t.visit c =
      { decisions := t.decisions + if c.isDecision then 1 else 0
        nesting := if c.isDecision then max t.nesting (c.count Cursor.isDecision - 1) else t.nesting
        conditions :=
          if c.isConditional then max t.conditions (c.count Cursor.isLogical) else t.conditions
        returns := t.returns + if c.isReturn then 1 else 0
        chains :=
          if c.isMemberAccess then max t.chains (c.count Cursor.isMemberAccess)
          else t.chains } := by
  unfold visit Cursor.isConditional Cursor.isReturn Cursor.isMemberAccess
  have hdecision : c.isDecision = c.kind.isDecision := rfl
  rw [hdecision]
  cases c.kind <;> rfl

/-- The tally of a list of nodes: counts add up, maxima go over the whole list. -/
theorem foldl_visit (cs : List Cursor) (t : FunctionTally) :
    cs.foldl visit t =
      { decisions := t.decisions + cs.countP Cursor.isDecision
        nesting :=
          max t.nesting (peak Cursor.isDecision (fun d => d.count Cursor.isDecision - 1) cs)
        conditions :=
          max t.conditions (peak Cursor.isConditional (Cursor.count Cursor.isLogical) cs)
        returns := t.returns + cs.countP Cursor.isReturn
        chains :=
          max t.chains (peak Cursor.isMemberAccess (Cursor.count Cursor.isMemberAccess) cs) } := by
  induction cs generalizing t with
  | nil => simp
  | cons c rest ih =>
    rw [List.foldl_cons, ih, visit_eq]
    simp only [FunctionTally.mk.injEq, List.countP_cons]
    refine ⟨by omega, ?_, ?_, by omega, ?_⟩
    · exact max_peak_cons t.nesting Cursor.isDecision
        (fun d => d.count Cursor.isDecision - 1) c rest
    · exact max_peak_cons t.conditions Cursor.isConditional _ c rest
    · exact max_peak_cons t.chains Cursor.isMemberAccess _ c rest

end FunctionTally

namespace Cursor

theorem tally_eq (c : Cursor) :
    c.tally =
      { decisions := c.subtree.countP isDecision
        nesting := peak isDecision (fun d => d.count isDecision - 1) c.subtree
        conditions := peak isConditional (count isLogical) c.subtree
        returns := c.subtree.countP isReturn
        chains := peak isMemberAccess (count isMemberAccess) c.subtree } := by
  rw [tally, fold_eq_foldl, FunctionTally.foldl_visit]
  simp

/-- A decision counts itself once; without it there remain the decisions strictly below. -/
theorem count_decisions_sub_one {d : Cursor} (h : d.isDecision) :
    d.count isDecision - 1 = d.descendants.countP isDecision := by
  rw [count_eq_countP, subtree_eq_cons, List.countP_cons_of_pos h, Nat.add_sub_cancel]

/-! ## The record -/

/-- The record of a declaration with every measure said of the whole subtree: decisions and returns
are counted, nesting is the largest number of decisions strictly below a decision, conditions the
largest number of joined conditions in a conditional, and chains the largest number of member
accesses in a member access of the body, the first child held as such. -/
def subtreeMeasures (f : Cursor) : FunctionRecord where
  name := f.functionName
  startLine := f.node.line
  parameterCount := f.parameterCount
  cyclomaticComplexity := 1 + f.subtree.countP isDecision
  maxNestingDepth := peak isDecision (fun d => d.descendants.countP isDecision) f.subtree
  maxConditions := peak isConditional (fun i => i.subtree.countP isLogical) f.subtree
  returns := f.subtree.countP isReturn
  maxMessageChains :=
    match f.children.find? (fun d => d.node.label.field? == some "body") with
    | some body => peak isMemberAccess (fun m => m.subtree.countP isMemberAccess) body.subtree
    | none => 0

theorem messageChain_eq_peak (c : Cursor) :
    c.messageChain = peak isMemberAccess (fun m => m.subtree.countP isMemberAccess) c.subtree := by
  rw [messageChain, maxOver_eq_peak, count_eq_fun]

theorem bodyChain_eq (f : Cursor) :
    (f.bodyChain : Int) = f.subtreeMeasures.maxMessageChains := by
  rw [bodyChain, childUnder?_eq_find?, subtreeMeasures]
  cases f.children.find? (fun d => d.node.label.field? == some "body") with
  | none => rfl
  | some body => exact congrArg Nat.cast (messageChain_eq_peak body)

theorem functionRecord_eq_subtreeMeasures (f : Cursor) : f.functionRecord = f.subtreeMeasures := by
  have hnesting : peak isDecision (fun d => d.count isDecision - 1) f.subtree =
      peak isDecision (fun d => d.descendants.countP isDecision) f.subtree :=
    peak_congr (fun d _ hd => count_decisions_sub_one hd)
  rw [functionRecord, tally_eq, bodyChain_eq, hnesting, count_eq_fun]
  rfl

end Cursor

/-! ## The check -/

theorem find?_negative_eq_none_iff (counts : List (String × Int)) :
    counts.find? (fun f => f.2 < 0) = none ↔ ∀ f ∈ counts, 0 ≤ f.2 := by
  rw [List.find?_eq_none]
  refine forall₂_congr ?_
  intro f _
  rw [decide_eq_true_iff, Int.not_lt]

theorem FunctionRecord.check?_eq_none_iff (r : FunctionRecord) :
    r.check? = none ↔ 1 ≤ r.cyclomaticComplexity ∧ ∀ f ∈ r.counts, 0 ≤ f.2 := by
  unfold FunctionRecord.check?
  rw [← find?_negative_eq_none_iff]
  by_cases h : r.cyclomaticComplexity < 1
  · rw [if_pos h]
    constructor
    · intro hnone
      cases hnone
    · intro ⟨hone, _⟩
      omega
  · rw [if_neg h, Option.map_eq_none_iff]
    exact ⟨fun hcounts => ⟨by omega, hcounts⟩, And.right⟩

namespace Cursor

/-- Every count of a record is a count of nodes, and hence not negative. -/
theorem functionRecord_counts_nonneg (f : Cursor) :
    ∀ e ∈ f.functionRecord.counts, 0 ≤ e.2 := by
  intro e he
  simp only [FunctionRecord.counts, functionRecord, List.mem_cons, List.not_mem_nil,
    or_false] at he
  rcases he with rfl | rfl | rfl | rfl | rfl <;> exact Int.natCast_nonneg _

theorem functionRecord_check? (f : Cursor) : f.functionRecord.check? = none := by
  rw [FunctionRecord.check?_eq_none_iff]
  refine ⟨?_, functionRecord_counts_nonneg f⟩
  show (1 : Int) ≤ 1 + (f.tally.decisions : Int)
  omega

/-- The record that measuring a node gives is the record of its subtree's counts and maxima, and no
rule for records stands against it. -/
theorem measure_eq_subtreeMeasures (f : Cursor) :
    f.measure.1 = f.subtreeMeasures ∧ f.measure.1.check? = none :=
  ⟨functionRecord_eq_subtreeMeasures f, functionRecord_check? f⟩

end Cursor

end CodeMetrics
