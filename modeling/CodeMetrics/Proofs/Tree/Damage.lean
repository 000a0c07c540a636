import CodeMetrics.Proofs.Tree.Lineage
import CodeMetrics.Tree.Damage

/-!
# The search for damage

The search for the first damaged place keeps a stack and enters a subtree only
if its root reports damage.  What it comes to is said here of the tree alone:

* `Cursor.Reported` — every node on the way down to a node reports damage;
* `Cursor.searched` — the nodes of a subtree that are reported, in pre-order;
  they are the start and what is searched of the children that report damage
  (`Cursor.searched_eq`), which is what one turn of the loop puts on the stack;
* `Cursor.firstDamaged?_eq` — the loop finds the first damaged node among them.

Where every damaged place is reported on all nodes above it
(`Node.ReportsDamage`) nothing is lost by leaving subtrees out
(`Node.damagedLine?_eq_first`).
-/

namespace CodeMetrics

namespace Cursor

/-- The node reports damage, and so does every node between it and `r`; whether `r` does is not
asked. -/
def Reported (r d : Cursor) : Prop :=
  ∀ e ∈ d :: d.lineage, e ∈ r.descendants → e.node.mayHoldDamage

instance (r d : Cursor) : Decidable (Reported r d) :=
  inferInstanceAs (Decidable (∀ e ∈ _, _ → _))

/-- The nodes of the subtree that are reported, in pre-order. -/
def searched (r : Cursor) : List Cursor := r.subtree.filter (fun d => Reported r d)

/-! ## Reports -/

/-- The start is reported: nothing on the way to it lies below it. -/
theorem reported_self (r : Cursor) : Reported r r := by
  intro e he hbelow
  rcases List.mem_cons.mp he with rfl | hlineage
  · exact absurd hbelow (not_mem_descendants_self e)
  · exact absurd (mem_subtree_of_mem_descendants hbelow) (not_mem_subtree_of_mem_lineage hlineage)

/-- Of the nodes on the way down to a node, those below `r` are found in the subtree of the same
child. -/
theorem mem_subtree_of_mem_way {r d x e : Cursor} (hd : d ∈ r.children) (hx : x ∈ d.subtree)
    (he : e ∈ x :: x.lineage) (hbelow : e ∈ r.descendants) : e ∈ d.subtree := by
  have hxe : x ∈ e.subtree := by
    rcases List.mem_cons.mp he with rfl | hlineage
    · exact self_mem_subtree e
    · have hxr : x ∈ r.subtree := mem_subtree_of_child hd hx
      have her : e ∈ r.subtree := mem_subtree_of_mem_descendants hbelow
      exact mem_subtree_of_mem_descendants ((mem_descendants_iff_mem_lineage her hxr).mpr hlineage)
  obtain ⟨d', hd', hed'⟩ := List.mem_flatMap.mp hbelow
  have hsame : d' = d := eq_of_mem_subtree_of_mem_children hd' hd (mem_subtree_trans hed' hxe) hx
  exact hsame ▸ hed'

/-- A node in the subtree of a child is reported if the child reports damage and the node is
reported below the child. -/
theorem reported_iff_of_child {r d x : Cursor} (hd : d ∈ r.children) (hx : x ∈ d.subtree) :
    Reported r x ↔ d.node.mayHoldDamage = true ∧ Reported d x := by
  have hdr : d ∈ r.descendants := mem_descendants_of_child hd (self_mem_subtree d)
  constructor
  · intro h
    refine ⟨h d ?_ hdr, ?_⟩
    · rcases mem_subtree_iff_mem_descendants.mp hx with rfl | hbelow
      · exact List.mem_cons_self
      · exact List.mem_cons_of_mem _ (mem_lineage_of_mem_descendants hbelow)
    · intro e he hed
      exact h e he (mem_descendants_trans (child_mem_subtree hd) hed)
  · rintro ⟨hdamage, h⟩ e he her
    rcases mem_subtree_iff_mem_descendants.mp (mem_subtree_of_mem_way hd hx he her) with rfl | hed
    · exact hdamage
    · exact h e he hed

/-- The start first, then what is searched of the children that report damage, one by one. -/
theorem searched_eq (r : Cursor) :
    r.searched = r :: (r.children.filter (·.node.mayHoldDamage)).flatMap searched := by
  have hchild : ∀ d ∈ r.children, d.subtree.filter (fun x => Reported r x) =
      if d.node.mayHoldDamage then d.searched else [] := by
    intro d hd
    by_cases hdamage : d.node.mayHoldDamage
    · rw [if_pos hdamage]
      refine List.filter_congr ?_
      intro x hx
      rw [decide_eq_decide, reported_iff_of_child hd hx]
      exact and_iff_right hdamage
    · rw [if_neg hdamage, List.filter_eq_nil_iff]
      intro x hx hreported
      exact hdamage ((reported_iff_of_child hd hx).mp (of_decide_eq_true hreported)).1
  have hself : r.searched = r :: (r.children.flatMap subtree).filter (fun x => Reported r x) := by
    rw [searched, subtree_eq]
    exact List.filter_cons_of_pos (decide_eq_true (reported_self r))
  rw [hself, List.filter_flatMap, List.flatMap_congr hchild]
  refine congrArg (r :: ·) ?_
  induction r.children with
  | nil => rfl
  | cons d rest ih =>
    by_cases hdamage : d.node.mayHoldDamage <;> simp [hdamage, ih]

/-! ## The loop -/

/-- The loop finds the first damaged node of what is searched of its stack, top first. -/
theorem firstDamaged?_eq (cs : List Cursor) :
    Node.firstDamaged? (cs.map (·.node)) =
      ((cs.flatMap searched).find? (·.node.isDamage)).map (·.node) := by
  generalize hstack : cs.map (·.node) = stack
  fun_induction Node.firstDamaged? stack generalizing cs with
  | case1 => simp [List.map_eq_nil_iff.mp hstack]
  | case2 n rest hdamage =>
    obtain ⟨c, cs', rfl, rfl, rfl⟩ := List.map_eq_cons_iff.mp hstack
    rw [List.flatMap_cons, searched_eq]
    simp [hdamage]
  | case3 n rest hdamage ih =>
    obtain ⟨c, cs', rfl, rfl, rfl⟩ := List.map_eq_cons_iff.mp hstack
    have hentered : (c.children.filter (·.node.mayHoldDamage)).map (·.node) =
        c.node.children.filter Node.mayHoldDamage := by
      rw [children, List.filter_map, List.map_map]
      exact List.map_id _
    rw [ih (c.children.filter (·.node.mayHoldDamage) ++ cs') (by rw [List.map_append, hentered]),
      List.flatMap_append, List.flatMap_cons, searched_eq c]
    simp [hdamage]

end Cursor

namespace Node

open Cursor

/-- Every damaged place of the tree is reported, on the node itself and on all nodes above it. -/
def ReportsDamage (t : Node) : Prop :=
  ∀ d ∈ (root t).subtree, d.node.isDamage → ∀ e ∈ d :: d.lineage, e.node.label.damaged

instance (t : Node) : Decidable t.ReportsDamage :=
  inferInstanceAs (Decidable (∀ d ∈ _, _ → ∀ e ∈ _, _))

/-- In such a tree a damaged place is reported wherever the search starts. -/
theorem ReportsDamage.reported {t : Node} (h : t.ReportsDamage) {r d : Cursor}
    (hd : d ∈ (root t).subtree) (hdamage : d.node.isDamage) : Reported r d := by
  intro e he _
  rw [mayHoldDamage, h d hd hdamage e he, Bool.true_or]

/-- There is a line to report exactly if the tree reports damage.  It is the line of the first
damaged node, in pre-order, that is reported down from the root, or that of the root if there is
none; in a tree that reports its damaged places it is the line of the first damaged node of all. -/
theorem damagedLine?_eq_first (t : Node) :
    let lineOf := fun found : Option Cursor => ((found.map (·.node)).getD t).line
    t.damagedLine? = (if t.label.damaged then
      some (lineOf ((root t).subtree.find? (fun d => d.node.isDamage ∧ Reported (root t) d)))
      else none) ∧
    (t.ReportsDamage → t.damagedLine? = if t.label.damaged then
      some (lineOf ((root t).subtree.find? (·.node.isDamage))) else none) := by
  intro lineOf
  have hloop : firstDamaged? [t] =
      ((root t).subtree.find? (fun d => d.node.isDamage ∧ Reported (root t) d)).map (·.node) := by
    have h := firstDamaged?_eq [root t]
    rw [List.flatMap_singleton, searched, List.find?_filter] at h
    show firstDamaged? [(root t).node] = _
    simpa [and_comm] using h
  have hline : t.damagedLine? = if t.label.damaged then
      some (lineOf ((root t).subtree.find? (fun d => d.node.isDamage ∧ Reported (root t) d)))
      else none := by
    rw [damagedLine?, hloop]
  refine ⟨hline, ?_⟩
  intro h
  have hall : (root t).subtree.find? (fun d => d.node.isDamage ∧ Reported (root t) d) =
      (root t).subtree.find? (·.node.isDamage) := by
    rw [← List.head?_filter, ← List.head?_filter]
    refine congrArg List.head? (List.filter_congr ?_)
    intro d hd
    rw [Bool.eq_iff_iff, decide_eq_true_iff]
    exact and_iff_left_of_imp (h.reported hd)
  rw [hline, hall]

/-- A program with a line that reports its missing token, in front of an error that is reported as
well. -/
def brokenProgram (front : List Node) : Node :=
  .mk 0 { type := "program", row := 0, damaged := true } (front ++ [
    .mk 3 { type := "expression_statement", row := 2, damaged := true } [
      .mk 4 { type := "identifier", row := 2 } [],
      .mk 5 { type := ";", row := 3, named := false, damaged := true, missing := true } []],
    .mk 6 { type := "ERROR", row := 4, damaged := true } []])

/-- The missing token is the first damaged place.  An error in front of it is passed over, as long
as the node above it does not report it. -/
theorem damagedLine?_eq_first_brokenProgram :
    let silent : Node := .mk 1 { type := "statement_block", row := 1 } [
      .mk 2 { type := "ERROR", row := 1, damaged := true } []]
    (brokenProgram []).ReportsDamage ∧ (brokenProgram []).damagedLine? = some 4 ∧
      ¬ (brokenProgram [silent]).ReportsDamage ∧
      (brokenProgram [silent]).damagedLine? = some 4 := by
  intro silent
  have hreports : (brokenProgram []).ReportsDamage := by decide
  have hall := (damagedLine?_eq_first (brokenProgram [])).2 hreports
  have hreported := (damagedLine?_eq_first (brokenProgram [silent])).1
  exact ⟨hreports, hall.trans (by decide), by decide, hreported.trans (by decide)⟩

end Node

end CodeMetrics
