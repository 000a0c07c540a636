import CodeMetrics.Proofs.Tree.Lineage
import CodeMetrics.Proofs.Tree.Links

/-!
# The table at every visit

After `k` turns a walk has written the links of the first `k` nodes of the
pre-order and stands before the rest (`Walk.exists_turns?`).  With distinct
identities that fixes the table at every visit and at the end, whatever it held
at the start:

* **visits** — at a visit the node and all nodes between it and the start are
  linked to their parents (`DistinctIds.parentOf?_linkAll_of_visit`);
* **frame** — the start and whatever lies outside its subtree keep their
  entries (`parentOf?_linkAll_outside`);
* **size** — from an empty table there is one link for each node below the
  start (`DistinctIds.size_linkAll_empty`).
-/

namespace CodeMetrics

/-! ## Turn by turn -/

/-- After as many turns as are asked for, the links of that many pending nodes have been written,
and the stack holds the rest of the pre-order. -/
theorem Walk.exists_turns? {σ : Type _} (visit : Parents → σ → Cursor → σ) (k : Nat) (w : Walk σ)
    (hk : k ≤ Cursor.pending w.stack) :
    ∃ next, w.turns? visit k = some next ∧
      next.parents = w.parents.linkAll ((w.stack.flatMap Cursor.subtree).take k) ∧
      next.stack.flatMap Cursor.subtree = (w.stack.flatMap Cursor.subtree).drop k := by
  induction k generalizing w with
  | zero => exact ⟨w, rfl, rfl, rfl⟩
  | succ k ih =>
    obtain ⟨stack, t, s⟩ := w
    cases stack with
    | nil => exact absurd hk (Nat.not_succ_le_zero k)
    | cons c rest =>
      have hturn := step?_cons visit c rest t s
      have hpending := pending_step? hturn
      obtain ⟨next, hnext, hparents, hstack⟩ :=
        ih ⟨c.children ++ rest, t.recordChildren c, visit t s c⟩ (by omega)
      have hlist : (c :: rest).flatMap Cursor.subtree =
          c :: (c.children ++ rest).flatMap Cursor.subtree := by
        rw [List.flatMap_cons, Cursor.subtree_eq c, List.flatMap_append, List.cons_append]
      refine ⟨next, ?_, ?_, ?_⟩
      · show (step? visit ⟨c :: rest, t, s⟩).bind _ = _
        rw [hturn]
        exact hnext
      · rw [hparents, hlist, List.take_succ_cons]
        rfl
      · rw [hstack, hlist, List.drop_succ_cons]

namespace Cursor

variable {σ : Type _}

/-- The walk comes to the node number `k` of the pre-order after `k` turns, with the links of the
nodes before it written. -/
theorem exists_visit {c d : Cursor} {k : Nat} (hd : c.subtree[k]? = some d)
    (visit : Parents → σ → Cursor → σ) (t : Parents) (s : σ) :
    ∃ w rest, Walk.turns? visit k ⟨[c], t, s⟩ = some w ∧ w.stack = d :: rest ∧
      w.parents = t.linkAll (c.subtree.take k) := by
  have hlist : [c].flatMap subtree = c.subtree := List.flatMap_singleton subtree c
  have hk : k < c.subtree.length := (List.getElem?_eq_some_iff.mp hd).1
  have hpending : k ≤ pending [c] := by
    rw [subtree_length] at hk
    rw [pending_cons]
    omega
  obtain ⟨w, hturns, hparents, hstack⟩ := Walk.exists_turns? visit k ⟨[c], t, s⟩ hpending
  rw [hlist] at hparents hstack
  have hdrop : c.subtree.drop k = d :: c.subtree.drop (k + 1) := by
    rw [List.drop_eq_getElem_cons hk, (List.getElem?_eq_some_iff.mp hd).2]
  rw [hdrop] at hstack
  cases hw : w.stack with
  | nil =>
    rw [hw] at hstack
    exact absurd hstack (List.cons_ne_nil _ _).symm
  | cons e rest =>
    rw [hw, List.flatMap_cons, subtree_eq, List.cons_append, List.cons.injEq] at hstack
    exact ⟨w, rest, hturns, by rw [hw, hstack.1], hparents⟩

/-! ## What the table holds -/

theorem exists_parent?_of_mem_descendants {c x : Cursor} (hx : x ∈ c.descendants) :
    ∃ p, x.parent? = some p := by
  obtain ⟨p, _, hxp⟩ := mem_descendants_iff_parent.mp hx
  exact ⟨p, parent?_of_mem_children hxp⟩

/-- When the walk comes to `d`, every node below the start that has `d` in its subtree is linked to
its parent. -/
theorem DistinctIds.parentOf?_linkAll_of_visit {c d x : Cursor} {front back : List Cursor}
    (distinct : c.DistinctIds) (t : Parents) (hsplit : c.subtree = front ++ d :: back)
    (hx : x ∈ c.descendants) (hd : d ∈ x.subtree) :
    (t.linkAll front).parentOf? x = x.parent? := by
  have hmet : x ∈ front ++ [d] := by
    have hsplit' : c.subtree = (front ++ [d]) ++ back := by
      rw [hsplit, List.append_assoc, List.singleton_append]
    exact mem_front_of_mem_subtree hsplit' (mem_subtree_of_mem_descendants hx) hd
      (List.mem_append_right _ List.mem_cons_self)
  have hknown : x = c ∨ ∃ p ∈ front, x ∈ p.children := by
    rcases List.mem_append.mp hmet with hfront | hlast
    · exact exists_parent_of_mem_front hsplit hfront
    · rw [List.mem_singleton.mp hlast]
      exact exists_parent_of_subtree_eq_append hsplit
  have hxc : x ≠ c := fun h => not_mem_descendants_self c (h ▸ hx)
  rw [distinct.parentOf?_linkAll_front t hsplit hknown, if_neg hxc]

/-- After the walk every node below the start is linked to its parent. -/
theorem DistinctIds.parentOf?_linkAll_descendant {c x : Cursor} (distinct : c.DistinctIds)
    (t : Parents) (hx : x ∈ c.descendants) : (t.linkAll c.subtree).parentOf? x = x.parent? := by
  have hxc : x ≠ c := fun h => not_mem_descendants_self c (h ▸ hx)
  rw [distinct.parentOf?_linkAll_subtree t (mem_subtree_of_mem_descendants hx), if_neg hxc]

/-- The identities below the start are distinct, and that of the start is none of them. -/
theorem DistinctIds.nodup_below {c : Cursor} (distinct : c.DistinctIds) :
    c.id ∉ c.descendants.map id ∧ (c.descendants.map id).Nodup := by
  have hnodup : (c.id :: c.descendants.map id).Nodup := by
    rw [← List.map_cons, ← subtree_eq_cons]
    exact distinct
  exact List.nodup_cons.mp hnodup

/-- Identities that no node below the start has keep their entries. -/
theorem parentOf?_linkAll_outside {c x : Cursor} (t : Parents) (hx : x.id ∉ c.descendants.map id) :
    (t.linkAll c.subtree).parentOf? x = t.parentOf? x := by
  refine Parents.parentOf?_linkAll_of_not_mem ?_
  intro p hp hmem
  obtain ⟨e, he, hid⟩ := List.mem_map.mp hmem
  exact hx (hid ▸ List.mem_map_of_mem (mem_descendants_iff_parent.mpr ⟨p, hp, he⟩))

/-- From an empty table a walk leaves one link for each node below the start. -/
theorem DistinctIds.size_linkAll_empty {c : Cursor} (distinct : c.DistinctIds) :
    (Parents.empty.linkAll c.subtree).size = c.node.size - 1 := by
  have hlinked : ∀ i, i ∈ (Parents.empty.linkAll c.subtree).links ↔ i ∈ c.descendants.map id := by
    intro i
    rw [Parents.mem_links_iff]
    constructor
    · -- a link of an empty table can only have been written by the walk
      intro hsome
      by_contra hout
      rw [parentOf?_linkAll_outside Parents.empty hout, Parents.parentOf?_empty] at hsome
      cases hsome
    · intro hmem
      obtain ⟨x, hx, rfl⟩ := List.mem_map.mp hmem
      obtain ⟨p, hp⟩ := exists_parent?_of_mem_descendants hx
      have hlink := distinct.parentOf?_linkAll_descendant Parents.empty hx
      rw [hp] at hlink
      exact Option.isSome_iff_exists.mpr ⟨p, hlink⟩
  rw [Parents.size_eq_length distinct.nodup_below.2 hlinked, List.length_map, ← subtree_length,
    subtree_eq_cons, List.length_cons, Nat.add_sub_cancel]

/-- In a tree with distinct identities let a walk start at `n`, with any visitor and into any table.
It comes to the nodes of the subtree one after the other in pre-order.  When it comes to `d`, the
table already links `d`, and each node on the way from `d` up to `n`, to its parent; when it is
over, each node below `n`.  The entry of `n`, and that of every identity outside the subtree, is
what it was before.  An empty table is left with one link for each node below `n`. -/
theorem walk_links_to_parents (t : Node) (n : Cursor) (distinct : (root t).DistinctIds)
    (hn : n ∈ (root t).subtree) (visit : Parents → σ → Cursor → σ) (links : Parents) (s : σ) :
    (∀ k d, n.subtree[k]? = some d →
      ∃ w rest, Walk.turns? visit k ⟨[n], links, s⟩ = some w ∧ w.stack = d :: rest ∧
        ∀ x ∈ n.descendants, d ∈ x.subtree →
          ∃ p, x.parent? = some p ∧ w.parents.parentOf? x = some p) ∧
    (∀ x ∈ n.descendants,
      ∃ p, x.parent? = some p ∧ (n.walk visit links s).1.parentOf? x = some p) ∧
    (∀ x : Cursor, x.id = n.id ∨ x.id ∉ n.subtree.map id →
      (n.walk visit links s).1.parentOf? x = links.parentOf? x) ∧
    (n.walk visit Parents.empty s).1.size = n.node.size - 1 := by
  have hdistinct : n.DistinctIds := distinct.of_mem hn
  rw [walk_links, walk_links]
  refine ⟨?_, ?_, ?_, hdistinct.size_linkAll_empty⟩
  · intro k d hd
    obtain ⟨w, rest, hturns, hstack, hparents⟩ := exists_visit hd visit links s
    refine ⟨w, rest, hturns, hstack, ?_⟩
    intro x hx hdx
    obtain ⟨p, hp⟩ := exists_parent?_of_mem_descendants hx
    obtain ⟨hk, hget⟩ := List.getElem?_eq_some_iff.mp hd
    have hsplit : n.subtree = n.subtree.take k ++ d :: n.subtree.drop (k + 1) := by
      rw [← hget, ← List.drop_eq_getElem_cons hk, List.take_append_drop]
    refine ⟨p, hp, ?_⟩
    rw [hparents, hdistinct.parentOf?_linkAll_of_visit links hsplit hx hdx, hp]
  · intro x hx
    obtain ⟨p, hp⟩ := exists_parent?_of_mem_descendants hx
    refine ⟨p, hp, ?_⟩
    rw [hdistinct.parentOf?_linkAll_descendant links hx, hp]
  · intro x hx
    refine parentOf?_linkAll_outside links ?_
    rcases hx with hstart | hout
    · rw [hstart]
      exact hdistinct.nodup_below.1
    · intro hmem
      obtain ⟨y, hy, hid⟩ := List.mem_map.mp hmem
      exact hout (List.mem_map.mpr ⟨y, mem_subtree_of_mem_descendants hy, hid⟩)

/-- A node with two leaves, next to which stands a third. -/
def twoLeaves : Node :=
  .mk 1 { type := "arguments", row := 0 } [
    .mk 2 { type := "string", row := 0 } [],
    .mk 3 { type := "string", row := 0 } []]

/-- The table may send the start to itself and its first leaf past it: the walk mends the leaf's
link in time and leaves that of the start alone. -/
theorem walk_links_to_parents_twoLeaves :
    let t : Node := .mk 0 { type := "program", row := 0 }
      [twoLeaves, .mk 4 { type := "string", row := 1 } []]
    let n : Cursor := (root t).down twoLeaves
    let first : Cursor := n.down (.mk 2 { type := "string", row := 0 } [])
    let stale : Parents := (Parents.empty.record n n).record first (root t)
    let asked := fun (links : Parents) (log : List (Option Cursor)) c => log ++ [links.parentOf? c]
    (root t).DistinctIds ∧ n ∈ (root t).subtree ∧
      (∃ w rest, Walk.turns? asked 1 ⟨[n], stale, []⟩ = some w ∧ w.stack = first :: rest ∧
        w.parents.parentOf? first = some n) ∧
      (n.walk asked stale []).1.parentOf? first = some n ∧
      (n.walk asked stale []).1.parentOf? n = some n ∧
      (n.walk asked Parents.empty []).1.size = 2 := by
  intro t n first stale asked
  have hdistinct : (root t).DistinctIds := by decide
  have hn : n ∈ (root t).subtree := by decide
  have hfirst : first ∈ n.descendants := by decide
  obtain ⟨hvisit, hafter, hframe, hsize⟩ :=
    walk_links_to_parents t n hdistinct hn asked stale []
  refine ⟨hdistinct, hn, ?_, ?_, ?_, hsize⟩
  · obtain ⟨w, rest, hturns, hstack, hlinks⟩ := hvisit 1 first rfl
    obtain ⟨p, hp, hlink⟩ := hlinks first hfirst (self_mem_subtree first)
    exact ⟨w, rest, hturns, hstack, hlink.trans hp.symm⟩
  · obtain ⟨p, hp, hlink⟩ := hafter first hfirst
    exact hlink.trans hp.symm
  · rw [hframe n (.inl rfl), Parents.parentOf?_record, if_neg (by decide),
      Parents.parentOf?_record, if_pos rfl]

end Cursor

end CodeMetrics
