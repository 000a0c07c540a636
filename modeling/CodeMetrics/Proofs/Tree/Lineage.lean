import CodeMetrics.Proofs.Tree.Subtree

/-!
# Lineages

The lineage of a node is the list of its proper ancestors, nearest first.  It
is read off the path above the node and needs no table of links.

* **membership** — of two nodes of one tree, one lies below the other exactly
  when the other is in its lineage (`mem_descendants_iff_mem_lineage`);
* **depth** — no two nodes of a lineage are equally deep, so subtrees of
  siblings share no node (`eq_of_mem_subtree_of_mem_children`);
* **order** — a walk meets a lineage from the far end: an initial part of the
  pre-order is closed under ancestors (`mem_front_of_mem_subtree`).
-/

namespace CodeMetrics

namespace Cursor

/-- The nodes of a path, nearest first, each with the part of the path above it. -/
def pathCursors : List Node → List Cursor
  | [] => []
  | p :: above => ⟨p, above⟩ :: pathCursors above

/-- The proper ancestors of a node, nearest first. -/
def lineage (c : Cursor) : List Cursor := pathCursors c.above

@[simp] theorem lineage_root (n : Node) : (root n).lineage = [] := rfl

theorem lineage_of_parent? {c p : Cursor} (h : c.parent? = some p) :
    c.lineage = p :: p.lineage := by
  rw [lineage, above_of_parent? h]
  rfl

theorem lineage_of_mem_children {p d : Cursor} (h : d ∈ p.children) :
    d.lineage = p :: p.lineage :=
  lineage_of_parent? (parent?_of_mem_children h)

/-- An ancestor is less deep. -/
theorem length_above_lt_of_mem_lineage {c p : Cursor} (h : p ∈ c.lineage) :
    p.above.length < c.above.length := by
  have all : ∀ above : List Node, ∀ q ∈ pathCursors above, q.above.length < above.length := by
    intro above
    induction above with
    | nil =>
      intro q hq
      exact absurd hq List.not_mem_nil
    | cons n above ih =>
      intro q hq
      rw [List.length_cons]
      rcases List.mem_cons.mp hq with rfl | hfar
      · exact Nat.lt_succ_self _
      · exact Nat.lt_succ_of_lt (ih q hfar)
  exact all c.above p h

/-- What stands above a node is not in its subtree. -/
theorem not_mem_subtree_of_mem_lineage {r e : Cursor} (he : e ∈ r.lineage) : e ∉ r.subtree := by
  intro hr
  have hlt := length_above_lt_of_mem_lineage he
  have hle := length_above_le hr
  omega

/-- No two nodes of a lineage are equally deep. -/
theorem eq_of_mem_lineage {c p q : Cursor} (hp : p ∈ c.lineage) (hq : q ∈ c.lineage)
    (h : p.above.length = q.above.length) : p = q := by
  have all : ∀ above : List Node, ∀ p ∈ pathCursors above, ∀ q ∈ pathCursors above,
      p.above.length = q.above.length → p = q := by
    intro above
    induction above with
    | nil =>
      intro p hp
      exact absurd hp List.not_mem_nil
    | cons n above ih =>
      intro p hp q hq hlen
      have hless : ∀ x ∈ pathCursors above, x.above.length < above.length :=
        fun x hx => length_above_lt_of_mem_lineage (c := ⟨n, above⟩) hx
      rcases List.mem_cons.mp hp with rfl | hpfar
      · rcases List.mem_cons.mp hq with rfl | hqfar
        · rfl
        · exact absurd hlen (Nat.ne_of_gt (hless q hqfar))
      · rcases List.mem_cons.mp hq with rfl | hqfar
        · exact absurd hlen (Nat.ne_of_lt (hless p hpfar))
        · exact ih p hpfar q hqfar hlen
  exact all c.above p hp q hq h

/-! ## Ancestors and descendants -/

/-- What holds of a node, and passes from each node of the subtree to its children, holds of the
whole subtree. -/
theorem induction_subtree {c : Cursor} {motive : Cursor → Prop} (self : motive c)
    (child : ∀ p ∈ c.subtree, motive p → ∀ d ∈ p.children, motive d) {x : Cursor}
    (hx : x ∈ c.subtree) : motive x := by
  induction c using induction_children with
  | step c ih =>
    rw [subtree_eq] at hx
    rcases List.mem_cons.mp hx with rfl | hbelow
    · exact self
    · obtain ⟨d, hd, hxd⟩ := List.mem_flatMap.mp hbelow
      refine ih d hd (child c (self_mem_subtree c) self d hd) ?_ hxd
      intro p hp
      exact child p (mem_subtree_of_child hd hp)

theorem mem_descendants_of_child {c d x : Cursor} (hd : d ∈ c.children) (hx : x ∈ d.subtree) :
    x ∈ c.descendants :=
  List.mem_flatMap.mpr ⟨d, hd, hx⟩

theorem mem_subtree_of_mem_descendants {c x : Cursor} (h : x ∈ c.descendants) : x ∈ c.subtree := by
  rw [subtree_eq_cons]
  exact List.mem_cons_of_mem _ h

theorem mem_subtree_iff_mem_descendants {c x : Cursor} :
    x ∈ c.subtree ↔ x = c ∨ x ∈ c.descendants := by
  rw [subtree_eq_cons, List.mem_cons]

theorem not_mem_descendants_self (c : Cursor) : c ∉ c.descendants :=
  fun h => Nat.lt_irrefl _ (length_above_lt h)

/-- A node lies below another exactly when it is a child of a node of the other's subtree. -/
theorem mem_descendants_iff_parent {c x : Cursor} :
    x ∈ c.descendants ↔ ∃ p ∈ c.subtree, x ∈ p.children := by
  constructor
  · intro hx
    rcases mem_subtree_iff.mp (mem_subtree_of_mem_descendants hx) with rfl | hp
    · exact absurd hx (not_mem_descendants_self x)
    · exact hp
  · rintro ⟨p, hp, hxp⟩
    rcases mem_subtree_iff_mem_descendants.mp hp with rfl | hbelow
    · exact mem_descendants_of_child hxp (self_mem_subtree x)
    · obtain ⟨d, hd, hpd⟩ := List.mem_flatMap.mp hbelow
      exact mem_descendants_of_child hd (mem_subtree_trans hpd (child_mem_subtree hxp))

theorem mem_descendants_trans {c d x : Cursor} (hd : d ∈ c.subtree) (hx : x ∈ d.descendants) :
    x ∈ c.descendants := by
  obtain ⟨p, hp, hxp⟩ := mem_descendants_iff_parent.mp hx
  exact mem_descendants_iff_parent.mpr ⟨p, mem_subtree_trans hd hp, hxp⟩

theorem mem_lineage_of_mem_descendants {d x : Cursor} (h : x ∈ d.descendants) : d ∈ x.lineage := by
  have hbelow : x = d ∨ d ∈ x.lineage := by
    refine induction_subtree (motive := fun y => y = d ∨ d ∈ y.lineage) (.inl rfl) ?_
      (mem_subtree_of_mem_descendants h)
    rintro p _ hp e he
    rw [lineage_of_mem_children he]
    rcases hp with rfl | hd
    · exact .inr List.mem_cons_self
    · exact .inr (List.mem_cons_of_mem _ hd)
  rcases hbelow with rfl | hd
  · exact absurd h (not_mem_descendants_self x)
  · exact hd

/-- Of two nodes of one tree, one lies below the other exactly when the other is an ancestor of
it. -/
theorem mem_descendants_iff_mem_lineage {r d x : Cursor} (hd : d ∈ r.subtree)
    (hx : x ∈ r.subtree) : x ∈ d.descendants ↔ d ∈ x.lineage := by
  refine ⟨mem_lineage_of_mem_descendants, ?_⟩
  refine induction_subtree (motive := fun y => d ∈ y.lineage → y ∈ d.descendants) ?_ ?_ hx
  · intro hdr
    exact absurd hd (not_mem_subtree_of_mem_lineage hdr)
  · intro p _ hp e he hde
    rw [lineage_of_mem_children he] at hde
    rcases List.mem_cons.mp hde with rfl | hfar
    · exact mem_descendants_of_child he (self_mem_subtree e)
    · exact mem_descendants_trans (mem_subtree_of_mem_descendants (hp hfar))
        (mem_descendants_of_child he (self_mem_subtree e))

/-- Subtrees of siblings share no node. -/
theorem eq_of_mem_subtree_of_mem_children {c d e x : Cursor} (hd : d ∈ c.children)
    (he : e ∈ c.children) (hxd : x ∈ d.subtree) (hxe : x ∈ e.subtree) : d = e := by
  have hdlen : d.above.length = c.above.length + 1 := by
    rw [(mem_children_iff.mp hd).2, List.length_cons]
  have helen : e.above.length = c.above.length + 1 := by
    rw [(mem_children_iff.mp he).2, List.length_cons]
  rcases mem_subtree_iff_mem_descendants.mp hxd with rfl | hbelow
  · -- `x` is as deep as `e`, so it is not below `e`
    rcases mem_subtree_iff_mem_descendants.mp hxe with rfl | hbelow'
    · rfl
    · have := length_above_lt hbelow'
      omega
  · rcases mem_subtree_iff_mem_descendants.mp hxe with rfl | hbelow'
    · have := length_above_lt hbelow
      omega
    · exact eq_of_mem_lineage (mem_lineage_of_mem_descendants hbelow)
        (mem_lineage_of_mem_descendants hbelow') (by omega)

/-! ## Ancestors come first -/

/-- An initial part of the pre-order is closed under ancestors. -/
theorem mem_front_of_mem_subtree {c x y : Cursor} {front back : List Cursor}
    (h : c.subtree = front ++ back) (hx : x ∈ c.subtree) (hy : y ∈ x.subtree) (hfront : y ∈ front) :
    x ∈ front := by
  refine induction_subtree (motive := fun z => z ∈ front → x ∈ front) (fun hz => hz) ?_ hy hfront
  intro p hp ih e he hef
  have hpc : p ∈ c.subtree := mem_subtree_trans hx hp
  rcases exists_parent_of_mem_front h hef with rfl | ⟨q, hq, heq⟩
  · exact absurd hpc (not_mem_subtree_of_parent? (parent?_of_mem_children he))
  · exact ih (eq_of_mem_children he heq ▸ hq)

end Cursor

end CodeMetrics
