import CodeMetrics.Proofs.Metrics.Conditions
import CodeMetrics.Proofs.Metrics.Function
import CodeMetrics.Proofs.Metrics.Functions
import CodeMetrics.Proofs.Tree.Outermost
import Mathlib.Algebra.Order.BigOperators.Group.List
import Mathlib.Algebra.Order.Group.Nat

/-!
# The shares that declarations have in the conditions of a file

Of its branches a declaration records the one that joins the most conditions; a
file adds up what all of its branches weigh.  The two are kept by different
walks, and they fit together:

* **weight** — `Cursor.branchWeight` is what a file keeps of a subtree, and a
  maximum over the same branches is no more (`Cursor.conditions_le_branchWeight`);
* **shares** — a part of a tree weighs no more than the tree
  (`Cursor.branchWeight_le`), and neither do the subtrees of outermost nodes
  taken together, since no branch lies in two of them
  (`Cursor.sum_branchWeight_outermost_le`).
-/

namespace CodeMetrics

/-- A largest weight is no more than all weights together. -/
theorem peak_le_sum (p : Cursor → Bool) (weight : Cursor → Nat) (cs : List Cursor) :
    peak p weight cs ≤ ((cs.filter p).map weight).sum := by
  apply peak_le
  intro c hc hp
  have hweight : weight c ∈ (cs.filter p).map weight :=
    List.mem_map_of_mem (List.mem_filter.mpr ⟨hc, hp⟩)
  exact List.le_sum_of_mem hweight

namespace Cursor

/-! ## Weight -/

/-- What the branches of a list of nodes weigh together: the conditions that each one joins, and at
least one for each. -/
def weightOfBranches (cs : List Cursor) : Nat :=
  ((cs.filter isConditional).map (fun i => max 1 (i.count isLogical))).sum

/-- What the branches of a subtree weigh together. -/
def branchWeight (c : Cursor) : Nat := weightOfBranches c.subtree

theorem weightOfBranches_append (cs ds : List Cursor) :
    weightOfBranches (cs ++ ds) = weightOfBranches cs + weightOfBranches ds := by
  rw [weightOfBranches, List.filter_append, List.map_append, List.sum_append]
  rfl

theorem weightOfBranches_flatMap (f : Cursor → List Cursor) (cs : List Cursor) :
    weightOfBranches (cs.flatMap f) = (cs.map (fun c => weightOfBranches (f c))).sum := by
  induction cs with
  | nil => rfl
  | cons c rest ih =>
    rw [List.flatMap_cons, weightOfBranches_append, ih, List.map_cons, List.sum_cons]

theorem weightOfBranches_perm {cs ds : List Cursor} (h : cs.Perm ds) :
    weightOfBranches cs = weightOfBranches ds :=
  ((h.filter isConditional).map _).sum_eq

theorem weightOfBranches_le {cs ds : List Cursor} (h : cs.Sublist ds) :
    weightOfBranches cs ≤ weightOfBranches ds :=
  ((h.filter isConditional).map _).sum_le_sum fun _ _ => Nat.zero_le _

/-- The conditions that a file is charged with are the weight of the subtree that was walked. -/
theorem allConditions_eq_branchWeight (r : Cursor) (path language callee : String) :
    (r.analyze path language callee).1.file.allConditions = (r.branchWeight : Int) :=
  scan_conditions callee r

/-- No branch joins more conditions than all branches weigh. -/
theorem conditions_le_branchWeight (c : Cursor) : c.tally.conditions ≤ c.branchWeight := by
  calc
    c.tally.conditions = peak isConditional (count isLogical) c.subtree := by rw [tally_eq]
    _ ≤ ((c.subtree.filter isConditional).map (count isLogical)).sum := peak_le_sum _ _ _
    _ ≤ c.branchWeight := List.sum_le_sum fun _ _ => Nat.le_max_right 1 _

/-! ## Shares -/

/-- A part of a tree weighs no more than the tree. -/
theorem branchWeight_le {c d : Cursor} (h : d ∈ c.subtree) : d.branchWeight ≤ c.branchWeight :=
  weightOfBranches_le (subtree_sublist h)

/-- No branch lies in the subtrees of two outermost nodes, so together they weigh no more than the
tree. -/
theorem sum_branchWeight_outermost_le (p : Cursor → Bool) (c : Cursor) :
    ((outermost p c.subtree).map branchWeight).sum ≤ c.branchWeight := by
  have hcut := weightOfBranches_perm (subtree_perm_outermost_subtree p c)
  rw [weightOfBranches_append, weightOfBranches_flatMap] at hcut
  show ((outermost p c.subtree).map (fun g => weightOfBranches g.subtree)).sum ≤
    weightOfBranches c.subtree
  rw [hcut]
  exact Nat.le_add_left _ _

/-- Wherever an analysis starts, no declaration that is walked over records more conditions than the
file is charged with, whether or not its record is kept, and neither do the outermost declarations
together. -/
theorem maxConditions_le_allConditions (r : Cursor) (path language callee : String) :
    let file := (r.analyze path language callee).1.file
    (∀ d ∈ r.declarations, d.measure.1.maxConditions ≤ file.allConditions) ∧
    ((outermost isDeclaration r.subtree).map (fun d => d.measure.1.maxConditions)).sum ≤
      file.allConditions := by
  intro file
  have hfile : file.allConditions = (r.branchWeight : Int) :=
    allConditions_eq_branchWeight r path language callee
  have hrecord : ∀ d : Cursor, d.measure.1.maxConditions = (d.tally.conditions : Int) :=
    fun _ => rfl
  refine ⟨?_, ?_⟩
  · intro d hd
    have hmem : d ∈ r.subtree := List.mem_of_mem_filter hd
    rw [hrecord, hfile]
    exact Int.ofNat_le.mpr ((conditions_le_branchWeight d).trans (branchWeight_le hmem))
  · have hshares : ((outermost isDeclaration r.subtree).map (fun d => d.tally.conditions)).sum ≤
        ((outermost isDeclaration r.subtree).map branchWeight).sum :=
      List.sum_le_sum fun d _ => conditions_le_branchWeight d
    have hsum : ((outermost isDeclaration r.subtree).map (fun d => d.tally.conditions)).sum ≤
        r.branchWeight := hshares.trans (sum_branchWeight_outermost_le isDeclaration r)
    have hcast :
        ((outermost isDeclaration r.subtree).map (fun d => d.measure.1.maxConditions)).sum =
          (((outermost isDeclaration r.subtree).map (fun d => d.tally.conditions)).sum : Nat) := by
      rw [Nat.cast_list_sum, List.map_map]
      rfl
    rw [hcast, hfile]
    exact Int.ofNat_le.mpr hsum

end Cursor

end CodeMetrics
