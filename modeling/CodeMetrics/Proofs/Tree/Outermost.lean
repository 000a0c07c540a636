import CodeMetrics.Proofs.Tree.Lineage
import Mathlib.Algebra.BigOperators.Ring.Finset
import Mathlib.Data.List.Perm.Basic

/-!
# Outermost nodes

Among the nodes of a list that satisfy a condition, the outermost are those
that lie below no other.  They cut a subtree into parts:

* **recursion** — of a subtree whose root satisfies the condition the root is
  the only outermost node (`outermost_subtree_of_pos`), and otherwise the
  children are searched one by one (`outermost_descendants`);
* **partition** — every node lies outside the outermost nodes or in the subtree
  of exactly one of them (`Cursor.subtree_perm_outermost`), which counts add up
  over (`Cursor.countP_subtree_eq`);
* **cover** — what satisfies the condition lies in the subtree of an outermost
  node (`Cursor.exists_outermost_of_mem`), so that it can be counted there
  (`Cursor.countP_subtree_eq_sum_outermost`).
-/

namespace CodeMetrics

/-- The nodes of a list that satisfy `p` and lie below no node of the list that does. -/
def outermost (p : Cursor → Bool) (cs : List Cursor) : List Cursor :=
  cs.filter (fun g => p g ∧ ∀ e ∈ cs, p e → g ∉ e.descendants)

/-- The nodes of a list that lie in the subtree of none of the nodes `gs`. -/
def outside (gs cs : List Cursor) : List Cursor :=
  cs.filter (fun d => ∀ g ∈ gs, d ∉ g.subtree)

theorem mem_outermost {p : Cursor → Bool} {cs : List Cursor} {g : Cursor} :
    g ∈ outermost p cs ↔ g ∈ cs ∧ p g ∧ ∀ e ∈ cs, p e → g ∉ e.descendants := by
  rw [outermost, List.mem_filter, decide_eq_true_iff]

theorem outermost_subset (p : Cursor → Bool) (cs : List Cursor) : outermost p cs ⊆ cs :=
  fun _ hg => (mem_outermost.mp hg).1

namespace Cursor

/-- A node lies below no node of its subtree. -/
theorem not_mem_descendants_of_mem_subtree {c e : Cursor} (h : e ∈ c.subtree) :
    c ∉ e.descendants := by
  intro hc
  have hle := length_above_le h
  have hlt := length_above_lt hc
  omega

/-! ## Recursion -/

theorem filter_subtree_of_pos {q : Cursor → Bool} {c : Cursor} (h : q c) :
    c.subtree.filter q = c :: c.descendants.filter q := by
  rw [subtree_eq_cons, List.filter_cons_of_pos h]

theorem filter_subtree_of_neg {q : Cursor → Bool} {c : Cursor} (h : ¬ q c) :
    c.subtree.filter q = c.descendants.filter q := by
  rw [subtree_eq_cons, List.filter_cons_of_neg h]

theorem outermost_subtree_of_pos {p : Cursor → Bool} {c : Cursor} (h : p c) :
    outermost p c.subtree = [c] := by
  have hself : p c ∧ ∀ e ∈ c.subtree, p e → c ∉ e.descendants :=
    ⟨h, fun e he _ => not_mem_descendants_of_mem_subtree he⟩
  have hbelow : c.descendants.filter
      (fun g => p g ∧ ∀ e ∈ c.subtree, p e → g ∉ e.descendants) = [] := by
    rw [List.filter_eq_nil_iff]
    intro g hg hout
    exact (decide_eq_true_iff.mp hout).2 c (self_mem_subtree c) h hg
  refine (filter_subtree_of_pos (decide_eq_true hself)).trans ?_
  rw [hbelow]

theorem outermost_subtree_of_neg {p : Cursor → Bool} {c : Cursor} (h : ¬ p c) :
    outermost p c.subtree = outermost p c.descendants := by
  refine (filter_subtree_of_neg ?_).trans ?_
  · rw [decide_eq_true_iff]
    exact fun hc => h hc.1
  · refine List.filter_congr ?_
    intro g _
    rw [subtree_eq_cons, decide_eq_decide, List.forall_mem_cons]
    refine and_congr_right fun _ => ⟨And.right, fun hall => ⟨fun hc => absurd hc h, hall⟩⟩

/-- Whether a node lies below another is settled within the subtree of one child. -/
theorem forall_not_mem_descendants_iff {p : Cursor → Bool} {c d g : Cursor} (hd : d ∈ c.children)
    (hg : g ∈ d.subtree) :
    (∀ e ∈ c.descendants, p e → g ∉ e.descendants) ↔
      ∀ e ∈ d.subtree, p e → g ∉ e.descendants := by
  constructor
  · intro h e he
    exact h e (mem_descendants_of_child hd he)
  · intro h e he hpe hge
    -- with `g` below it, `e` is in the tree of the same child
    obtain ⟨d', hd', hed'⟩ := List.mem_flatMap.mp he
    have hgd' : g ∈ d'.subtree := mem_subtree_trans hed' (mem_subtree_of_mem_descendants hge)
    have hsame : d' = d := eq_of_mem_subtree_of_mem_children hd' hd hgd' hg
    exact h e (hsame ▸ hed') hpe hge

theorem outermost_descendants (p : Cursor → Bool) (c : Cursor) :
    outermost p c.descendants = c.children.flatMap (fun d => outermost p d.subtree) := by
  refine List.filter_flatMap.trans (List.flatMap_congr ?_)
  intro d hd
  refine List.filter_congr ?_
  intro g hg
  rw [decide_eq_decide]
  exact and_congr_right fun _ => forall_not_mem_descendants_iff hd hg

/-! ## Partition -/

theorem outside_descendants (p : Cursor → Bool) (c : Cursor) :
    outside (outermost p c.descendants) c.descendants =
      c.children.flatMap (fun d => outside (outermost p d.subtree) d.subtree) := by
  refine List.filter_flatMap.trans (List.flatMap_congr ?_)
  intro d hd
  refine List.filter_congr ?_
  intro y hy
  rw [decide_eq_decide, outermost_descendants]
  constructor
  · intro h g hg
    exact h g (List.mem_flatMap.mpr ⟨d, hd, hg⟩)
  · intro h g hg hyg
    obtain ⟨d', hd', hgd'⟩ := List.mem_flatMap.mp hg
    have hyd' : y ∈ d'.subtree := mem_subtree_trans (outermost_subset p _ hgd') hyg
    have hsame : d' = d := eq_of_mem_subtree_of_mem_children hd' hd hyd' hy
    exact h g (hsame ▸ hgd') hyg

/-- The root lies outside whatever lies below it. -/
theorem outside_subtree {c : Cursor} {gs : List Cursor} (h : gs ⊆ c.descendants) :
    outside gs c.subtree = c :: outside gs c.descendants := by
  have hself : ∀ g ∈ gs, c ∉ g.subtree := by
    intro g hg hc
    have hlt := length_above_lt (h hg)
    have hle := length_above_le hc
    omega
  exact filter_subtree_of_pos (decide_eq_true hself)

/-- The root of a subtree stays outside; the rest falls apart as the subtrees of the children do. -/
theorem subtree_perm_of_children {p : Cursor → Bool} {c : Cursor}
    (h : ∀ d ∈ c.children, d.subtree.Perm
      (outside (outermost p d.subtree) d.subtree ++ (outermost p d.subtree).flatMap subtree)) :
    c.subtree.Perm (outside (outermost p c.descendants) c.subtree ++
      (outermost p c.descendants).flatMap subtree) := by
  rw [outside_subtree (outermost_subset p _), outside_descendants, outermost_descendants,
    subtree_eq, List.cons_append, List.flatMap_assoc]
  refine List.Perm.cons c ?_
  refine (List.Perm.flatMap_left _ h).trans ?_
  exact (List.flatMap_append_perm _ _ _).symm

/-- The nodes of a subtree are those outside its outermost nodes and those of the subtrees of its
outermost nodes, each of them once. -/
theorem subtree_perm_outermost_subtree (p : Cursor → Bool) (c : Cursor) :
    c.subtree.Perm (outside (outermost p c.subtree) c.subtree ++
      (outermost p c.subtree).flatMap subtree) := by
  induction c using induction_children with
  | step c ih =>
    by_cases h : p c
    · have hnone : outside [c] c.subtree = [] := by
        rw [outside, List.filter_eq_nil_iff]
        intro d hd hout
        exact decide_eq_true_iff.mp hout c List.mem_cons_self hd
      rw [outermost_subtree_of_pos h, hnone, List.nil_append, List.flatMap_singleton]
    · rw [outermost_subtree_of_neg h]
      exact subtree_perm_of_children ih

/-- The same cut, made strictly below the root. -/
theorem subtree_perm_outermost (p : Cursor → Bool) (c : Cursor) :
    c.subtree.Perm (outside (outermost p c.descendants) c.subtree ++
      (outermost p c.descendants).flatMap subtree) :=
  subtree_perm_of_children (fun d _ => subtree_perm_outermost_subtree p d)

/-- Counts add up over the cut. -/
theorem countP_subtree_eq (p q : Cursor → Bool) (c : Cursor) :
    c.subtree.countP q = (outside (outermost p c.descendants) c.subtree).countP q +
      ((outermost p c.descendants).map (fun g => g.subtree.countP q)).sum := by
  rw [(subtree_perm_outermost p c).countP_eq, List.countP_append, List.countP_flatMap]
  rfl

/-! ## Cover -/

/-- A node that satisfies `p` lies in the subtree of an outermost one. -/
theorem exists_outermost_of_mem {p : Cursor → Bool} {c d : Cursor} (hd : d ∈ c.subtree)
    (hp : p d) : ∃ g ∈ outermost p c.subtree, d ∈ g.subtree := by
  induction c using induction_children with
  | step c ih =>
    by_cases hc : p c
    · exact ⟨c, outermost_subtree_of_pos hc ▸ List.mem_cons_self, hd⟩
    · rcases mem_subtree_iff_mem_descendants.mp hd with rfl | hbelow
      · exact absurd hp hc
      · obtain ⟨e, he, hde⟩ := List.mem_flatMap.mp hbelow
        obtain ⟨g, hg, hdg⟩ := ih e he hde
        rw [outermost_subtree_of_neg hc, outermost_descendants]
        exact ⟨g, List.mem_flatMap.mpr ⟨e, he, hg⟩, hdg⟩

/-- What satisfies `p` is counted within the outermost nodes that do. -/
theorem countP_subtree_eq_sum_outermost (p : Cursor → Bool) (c : Cursor) :
    c.subtree.countP p = ((outermost p c.subtree).map (fun g => g.subtree.countP p)).sum := by
  have hnone : (outside (outermost p c.subtree) c.subtree).countP p = 0 := by
    rw [List.countP_eq_zero]
    intro d hd hp
    obtain ⟨hmem, hout⟩ := List.mem_filter.mp hd
    obtain ⟨g, hg, hdg⟩ := exists_outermost_of_mem hmem hp
    exact decide_eq_true_iff.mp hout g hg hdg
  rw [(subtree_perm_outermost_subtree p c).countP_eq, List.countP_append, hnone, Nat.zero_add,
    List.countP_flatMap]
  rfl

end Cursor

end CodeMetrics
