import CodeMetrics.Proofs.Metrics.File
import CodeMetrics.Proofs.Tree.Lineage

/-!
# Conditions weighed by the branches around them

The weight of a file's conditionals is added up branch by branch.  Added up the
other way round, connective by connective, every connective weighs once for
each branch around it:

* **exchange** — counting what lies below the nodes of one sort is counting,
  for the nodes of another sort, those of the first above them
  (`Cursor.sum_descendants_eq_sum_lineage`), for subtrees of any shape;
* **least weight** — a branch without connectives weighs one, and that is all
  that the least weight adds (`Cursor.sum_max_one`).
-/

namespace CodeMetrics.Cursor

/-! ## Exchange -/

/-- The ancestors of a node that satisfy `p` and lie in the subtree at `r`. -/
def enclosing (p : Cursor → Bool) (r d : Cursor) : List Cursor :=
  d.lineage.filter (fun e => p e ∧ e ∈ r.subtree)

/-- Nothing of a subtree encloses its start. -/
theorem enclosing_self (p : Cursor → Bool) (r : Cursor) : enclosing p r r = [] := by
  rw [enclosing, List.filter_eq_nil_iff]
  intro e he h
  exact not_mem_subtree_of_mem_lineage he (of_decide_eq_true h).2

/-- Seen from one step up, a node is enclosed by the upper start as well, if that counts. -/
theorem length_enclosing_of_child (p : Cursor → Bool) {r c x : Cursor} (hc : c ∈ r.children)
    (hx : x ∈ c.subtree) :
    (enclosing p r x).length = (enclosing p c x).length + if p r then 1 else 0 := by
  refine induction_subtree (motive := fun y => (enclosing p r y).length =
    (enclosing p c y).length + if p r then 1 else 0) ?_ ?_ hx
  · -- above `c` there is `r`, and what lies above `r` is outside
    have hlineage : c.lineage = r :: r.lineage := lineage_of_mem_children hc
    have hrest : r.lineage.filter (fun e => p e ∧ e ∈ r.subtree) = [] := enclosing_self p r
    rw [enclosing_self, enclosing, hlineage, List.filter_cons, hrest]
    by_cases hp : p r <;> simp [hp, self_mem_subtree]
  · intro y hy ih e he
    have hyr : y ∈ r.subtree := mem_subtree_of_child hc hy
    have hlineage : e.lineage = y :: y.lineage := lineage_of_mem_children he
    rw [enclosing, enclosing, hlineage, List.filter_cons, List.filter_cons]
    by_cases hp : p y
    · simp only [hp, hyr, hy, and_self, decide_true, if_true, List.length_cons]
      rw [enclosing, enclosing] at ih
      omega
    · simp only [hp, false_and, decide_false, Bool.false_eq_true, if_false]
      exact ih

/-- A sum over a subtree, taken at the start and over the subtrees of the children. -/
theorem sum_subtree (w : Cursor → Nat) (c : Cursor) :
    (c.subtree.map w).sum = w c + (c.children.map (fun d => (d.subtree.map w).sum)).sum := by
  rw [subtree_eq, List.map_cons, List.sum_cons, List.map_flatMap, List.flatMap_def,
    List.sum_flatten, List.map_map]
  rfl

theorem sum_map_filter (p : Cursor → Bool) (w : Cursor → Nat) (cs : List Cursor) :
    ((cs.filter p).map w).sum = (cs.map (fun c => if p c then w c else 0)).sum := by
  induction cs with
  | nil => rfl
  | cons c rest ih => by_cases hp : p c <;> simp [hp, ih]

/-- What satisfies `q` below the nodes that satisfy `p`, counted node by node, is as much as what
satisfies `p` around the nodes that satisfy `q`. -/
theorem sum_descendants_eq_sum_lineage (p q : Cursor → Bool) (r : Cursor) :
    ((r.subtree.filter p).map (fun i => i.descendants.countP q)).sum =
      ((r.subtree.filter q).map (fun l => (enclosing p r l).length)).sum := by
  rw [sum_map_filter, sum_map_filter]
  induction r using induction_children with
  | step r ih =>
    -- from below a child, the start is one more node around what satisfies `q`
    have hchild : ∀ d ∈ r.children,
        (d.subtree.map (fun l => if q l then (enclosing p r l).length else 0)).sum =
          (d.subtree.map (fun i => if p i then i.descendants.countP q else 0)).sum +
            if p r then d.subtree.countP q else 0 := by
      intro d hd
      rw [ih d hd]
      have hweights : d.subtree.map (fun l => if q l then (enclosing p r l).length else 0) =
          d.subtree.map (fun l => (if q l then (enclosing p d l).length else 0) +
            if p r && q l then 1 else 0) := by
        refine List.map_congr_left ?_
        intro l hl
        rw [length_enclosing_of_child p hd hl]
        by_cases hq : q l <;> simp [hq]
      have hcount : (d.subtree.map (fun l => if p r && q l then 1 else 0)).sum =
          if p r then d.subtree.countP q else 0 := by
        by_cases hp : p r
        · simp [hp, ← sum_map_filter q (fun _ => 1), List.countP_eq_length_filter]
        · simp [hp]
      rw [hweights, List.sum_map_add, hcount]
    have hbelow : (r.children.map (fun d => if p r then d.subtree.countP q else 0)).sum =
        if p r then r.descendants.countP q else 0 := by
      by_cases hp : p r
      · simp [hp, descendants, List.countP_flatMap, Function.comp_def]
      · simp [hp]
    have hself : (if q r then (enclosing p r r).length else 0) = 0 := by
      simp [enclosing_self]
    rw [sum_subtree, sum_subtree _ r, hself, List.map_congr_left hchild, List.sum_map_add, hbelow]
    omega

/-! ## Least weight -/

/-- The weights of branches, each at least one: one more for each that weighs nothing. -/
theorem sum_max_one (w : Cursor → Nat) (cs : List Cursor) :
    (cs.map (fun c => max 1 (w c))).sum = cs.countP (fun c => w c = 0) + (cs.map w).sum := by
  induction cs with
  | nil => rfl
  | cons c rest ih =>
    rw [List.map_cons, List.sum_cons, List.map_cons, List.sum_cons, List.countP_cons, ih]
    by_cases h : w c = 0
    · simp [h]
      omega
    · simp [h]
      omega

/-- A branch joins no conditions itself. -/
theorem count_isLogical_of_isConditional {i : Cursor} (h : i.isConditional) :
    i.count isLogical = i.descendants.countP isLogical := by
  have hkind : i.kind = .conditional := beq_iff_eq.mp h
  have hself : ¬ i.isLogical = true := by simp [isLogical, hkind]
  rw [count_eq_countP, subtree_eq_cons, List.countP_cons_of_neg hself]

/-- Wherever an analysis starts, its conditions are the branches of the subtree without connectives
and, for every connective of the subtree, the branches of the subtree that it lies in. -/
theorem analyze_conditions_by_connective (r : Cursor) (path language callee : String) :
    (r.analyze path language callee).1.file.allConditions =
      ((r.subtree.countP (fun i => i.isConditional ∧ ∀ l ∈ i.subtree, ¬ l.isLogical) +
        ((r.subtree.filter isLogical).map (fun l =>
          (l.lineage.filter (fun i => i.isConditional ∧ i ∈ r.subtree)).length)).sum : Nat) :
        Int) := by
  have hscan := scan_conditions callee r
  rw [sum_max_one] at hscan
  have hbare : (r.subtree.filter isConditional).countP (fun i => i.count isLogical = 0) =
      r.subtree.countP (fun i => i.isConditional ∧ ∀ l ∈ i.subtree, ¬ l.isLogical) := by
    rw [List.countP_filter]
    refine List.countP_congr ?_
    intro i _
    simp [count_eq_countP, List.countP_eq_zero, and_comm]
  have hjoined : (r.subtree.filter isConditional).map (fun i => i.count isLogical) =
      (r.subtree.filter isConditional).map (fun i => i.descendants.countP isLogical) := by
    refine List.map_congr_left ?_
    intro i hi
    exact count_isLogical_of_isConditional (List.mem_filter.mp hi).2
  rw [hbare, hjoined, sum_descendants_eq_sum_lineage] at hscan
  exact hscan

end CodeMetrics.Cursor
