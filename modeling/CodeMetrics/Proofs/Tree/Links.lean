import CodeMetrics.Proofs.Tree.Walk

/-!
# Links during a walk

When a walk comes to a node, the table holds what it held at the start and the
links of the children of every node visited before (`walk_state_hom`).  Where
identities are distinct this is enough to climb from the node to the start:

* **frame** — a link that no visited node writes stays as it was
  (`Parents.parentOf?_linkAll_of_not_mem`);
* **links** — the start keeps its entry, and every other node that is visited,
  or whose parent is, is linked to its parent
  (`DistinctIds.parentOf?_linkAll_front`);
* **size** — the number of links is that of the identities that are linked
  (`Parents.size_eq_length`).

The answers for a node and for the nodes above it are hence the same during
the walk and after it.
-/

namespace CodeMetrics

namespace Parents

/-- The table once the links of the children of several nodes have been written. -/
def linkAll (t : Parents) (cs : List Cursor) : Parents := cs.foldl recordChildren t

theorem linkAll_append (t : Parents) (cs ds : List Cursor) :
    t.linkAll (cs ++ ds) = (t.linkAll cs).linkAll ds :=
  List.foldl_append ..

@[simp] theorem parentOf?_empty (c : Cursor) : Parents.empty.parentOf? c = none := by
  simp [parentOf?, Parents.empty]

theorem parentOf?_recordChildren (t : Parents) (p x : Cursor) :
    (t.recordChildren p).parentOf? x =
      if x.id ∈ p.children.map Cursor.id then some p else t.parentOf? x := by
  have all : ∀ cs : List Cursor,
      (cs.foldr (fun child t => t.record child p) t).parentOf? x =
        if x.id ∈ cs.map Cursor.id then some p else t.parentOf? x := by
    intro cs
    induction cs with
    | nil => rfl
    | cons c rest ih =>
      rw [List.foldr_cons, parentOf?_record, ih, List.map_cons]
      by_cases hc : c.id = x.id
      · rw [if_pos hc, if_pos (hc ▸ List.mem_cons_self)]
      · rw [if_neg hc]
        refine if_congr ?_ rfl rfl
        rw [List.mem_cons]
        exact ⟨.inr, fun h => h.resolve_left (fun he => hc he.symm)⟩
  exact all p.children

/-- A link that no node of the list writes stays as it was. -/
theorem parentOf?_linkAll_of_not_mem {t : Parents} {cs : List Cursor} {x : Cursor}
    (h : ∀ p ∈ cs, x.id ∉ p.children.map Cursor.id) :
    (t.linkAll cs).parentOf? x = t.parentOf? x := by
  induction cs generalizing t with
  | nil => rfl
  | cons p rest ih =>
    show ((t.recordChildren p).linkAll rest).parentOf? x = _
    rw [ih (fun q hq => h q (List.mem_cons_of_mem _ hq)), parentOf?_recordChildren,
      if_neg (h p List.mem_cons_self)]

/-- A link that one node of the list writes, and no other, leads to that node. -/
theorem parentOf?_linkAll_of_mem {t : Parents} {cs : List Cursor} {x p : Cursor} (hp : p ∈ cs)
    (hx : x.id ∈ p.children.map Cursor.id)
    (unique : ∀ q ∈ cs, x.id ∈ q.children.map Cursor.id → q = p) :
    (t.linkAll cs).parentOf? x = some p := by
  induction cs generalizing t with
  | nil => exact absurd hp List.not_mem_nil
  | cons q rest ih =>
    show ((t.recordChildren q).linkAll rest).parentOf? x = _
    have hrest : ∀ e ∈ rest, x.id ∈ e.children.map Cursor.id → e = p :=
      fun e he => unique e (List.mem_cons_of_mem _ he)
    by_cases hmem : p ∈ rest
    · exact ih hmem hrest
    · -- the writer is the head, and nothing behind it overwrites the link
      have hq : p = q := (List.mem_cons.mp hp).resolve_right hmem
      rw [parentOf?_linkAll_of_not_mem (fun e he hxe => hmem (hrest e he hxe ▸ he)),
        parentOf?_recordChildren, if_pos (hq ▸ hx), hq]

/-! ## The number of links -/

/-- Every identity is that of some node, so tables that answer alike hold links for the same
identities. -/
theorem mem_links_iff (t : Parents) (i : Nat) :
    i ∈ t.links ↔ (t.parentOf? ⟨.mk i default [], []⟩).isSome :=
  Std.HashMap.mem_iff_isSome_getElem?

/-- Distinct identities, all of them linked, are at most as many as there are links. -/
theorem length_le_size {t : Parents} {ids : List Nat} (distinct : ids.Nodup)
    (linked : ∀ i ∈ ids, i ∈ t.links) : ids.length ≤ t.size := by
  have hkeys : ids ⊆ t.links.keys := fun i hi => Std.HashMap.mem_keys.mpr (linked i hi)
  calc ids.length ≤ t.links.keys.length := distinct.length_le_of_subset hkeys
    _ = t.size := Std.HashMap.length_keys

/-- A table has as many links as there are identities linked. -/
theorem size_eq_length {t : Parents} {ids : List Nat} (distinct : ids.Nodup)
    (linked : ∀ i, i ∈ t.links ↔ i ∈ ids) : t.size = ids.length := by
  have hperm : t.links.keys.Perm ids := by
    refine (List.perm_ext_iff_of_nodup Std.HashMap.nodup_keys distinct).mpr ?_
    intro i
    rw [Std.HashMap.mem_keys, linked]
  calc t.size = t.links.keys.length := Std.HashMap.length_keys.symm
    _ = ids.length := hperm.length_eq

/-- Tables that answer alike have equally many links. -/
theorem size_congr {t u : Parents} (h : ∀ c, t.parentOf? c = u.parentOf? c) : t.size = u.size := by
  have hsize : t.size = u.links.keys.length := by
    refine size_eq_length Std.HashMap.nodup_keys ?_
    intro i
    rw [Std.HashMap.mem_keys, mem_links_iff, mem_links_iff, h]
  exact hsize.trans Std.HashMap.length_keys

end Parents

namespace Cursor

/-! ## The table at a visit -/

/-- A walk leaves the links of every node of the subtree behind. -/
theorem walk_links {σ : Type _} (visit : Parents → σ → Cursor → σ) (c : Cursor) (t : Parents)
    (s : σ) : (c.walk visit t s).1 = t.linkAll c.subtree := by
  rw [walk_eq_foldl]
  generalize c.subtree = cs
  induction cs generalizing t s with
  | nil => rfl
  | cons d rest ih => exact ih (t.recordChildren d) (visit t s d)

/-- Follows a part `proj` of the visitor's state through a walk: if at every node of the subtree,
with the links of the nodes before it written, the visitor treats that part as `g` does, the walk
leaves it as the fold of `g` over the pre-order does. -/
theorem walk_state_hom {σ τ : Type _} {visit : Parents → σ → Cursor → σ} {c : Cursor} {t : Parents}
    (proj : σ → τ) (g : τ → Cursor → τ)
    (h : ∀ front d back, c.subtree = front ++ d :: back →
      ∀ s, proj (visit (t.linkAll front) s d) = g (proj s) d) (s : σ) :
    proj (c.walk visit t s).2 = c.subtree.foldl g (proj s) := by
  -- the walk cut behind `front`, from the state that stands there
  have rest : ∀ (back front : List Cursor) (s : σ), c.subtree = front ++ back →
      proj (back.foldl (Walk.visitAndLink visit) (t.linkAll front, s)).2 =
        back.foldl g (proj s) := by
    intro back
    induction back with
    | nil => intro front s _; rfl
    | cons d back ih =>
      intro front s hsplit
      have hnext : (t.linkAll front).recordChildren d = t.linkAll (front ++ [d]) :=
        (Parents.linkAll_append t front [d]).symm
      rw [List.foldl_cons, List.foldl_cons, ← h front d back hsplit s]
      show proj (back.foldl _ ((t.linkAll front).recordChildren d, _)).2 = _
      rw [hnext]
      exact ih (front ++ [d]) _ (by rw [hsplit, List.append_assoc]; rfl)
  rw [walk_eq_foldl]
  exact rest c.subtree [] s rfl

/-! ## Links and structure -/

/-- Among distinct identities a child is known by its identity. -/
theorem DistinctIds.id_mem_children_iff {c p x : Cursor} (distinct : c.DistinctIds)
    (hp : p ∈ c.subtree) (hx : x ∈ c.subtree) :
    x.id ∈ p.children.map id ↔ x ∈ p.children := by
  constructor
  · intro h
    obtain ⟨d, hd, hid⟩ := List.mem_map.mp h
    have hdc : d ∈ c.subtree := mem_subtree_trans hp (child_mem_subtree hd)
    rwa [distinct.eq_of_id_eq hx hdc hid.symm]
  · exact fun h => List.mem_map_of_mem h

/-- With the links of an initial part of the pre-order written, the start has its old entry, and a
child of that part is linked to its parent. -/
theorem DistinctIds.parentOf?_linkAll_front {c x : Cursor} {front back : List Cursor}
    (distinct : c.DistinctIds) (t : Parents) (hsplit : c.subtree = front ++ back)
    (hx : x = c ∨ ∃ p ∈ front, x ∈ p.children) :
    (t.linkAll front).parentOf? x = if x = c then t.parentOf? c else x.parent? := by
  have hsub : ∀ p ∈ front, p ∈ c.subtree := by
    intro p hp
    rw [hsplit]
    exact List.mem_append_left _ hp
  by_cases hxc : x = c
  · subst hxc
    rw [if_pos rfl]
    refine Parents.parentOf?_linkAll_of_not_mem ?_
    intro p hp hid
    have hxp := (distinct.id_mem_children_iff (hsub p hp) (self_mem_subtree x)).mp hid
    exact not_mem_subtree_of_parent? (parent?_of_mem_children hxp) (hsub p hp)
  · rw [if_neg hxc]
    obtain ⟨p, hp, hxp⟩ := hx.resolve_left hxc
    have hxs : x ∈ c.subtree := mem_subtree_trans (hsub p hp) (child_mem_subtree hxp)
    rw [parent?_of_mem_children hxp]
    refine Parents.parentOf?_linkAll_of_mem hp (List.mem_map_of_mem hxp) ?_
    intro q hq hid
    exact eq_of_mem_children ((distinct.id_mem_children_iff (hsub q hq) hxs).mp hid) hxp

/-- After the walk every node below the start is linked to its parent. -/
theorem DistinctIds.parentOf?_linkAll_subtree {c x : Cursor} (distinct : c.DistinctIds)
    (t : Parents) (hx : x ∈ c.subtree) :
    (t.linkAll c.subtree).parentOf? x = if x = c then t.parentOf? c else x.parent? :=
  distinct.parentOf?_linkAll_front t (List.append_nil _).symm (mem_subtree_iff.mp hx)

/-- When the walk comes to a node, the answers for the node and for all nodes before it are those of
the finished table. -/
theorem DistinctIds.parentOf?_linkAll_at_visit {c d x : Cursor} {front back : List Cursor}
    (distinct : c.DistinctIds) (t : Parents) (hsplit : c.subtree = front ++ d :: back)
    (hx : x = d ∨ x ∈ front) :
    (t.linkAll front).parentOf? x = (t.linkAll c.subtree).parentOf? x := by
  have hknown : x = c ∨ ∃ p ∈ front, x ∈ p.children := by
    rcases hx with rfl | hfront
    · exact exists_parent_of_subtree_eq_append hsplit
    · exact exists_parent_of_mem_front hsplit hfront
  have hmem : x ∈ c.subtree := by
    rw [hsplit]
    rcases hx with rfl | hfront
    · exact List.mem_append_right _ List.mem_cons_self
    · exact List.mem_append_left _ hfront
  rw [distinct.parentOf?_linkAll_front t hsplit hknown, distinct.parentOf?_linkAll_subtree t hmem]

end Cursor

end CodeMetrics
