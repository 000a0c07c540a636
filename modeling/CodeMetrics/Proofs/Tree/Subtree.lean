import CodeMetrics.Tree.Cursor
import Mathlib.Data.List.Nodup

/-!
# Subtrees in pre-order

What the list `Cursor.subtree` says about a tree, whatever its shape:

* **membership** — a node of the subtree is the start or a child of a node of
  the subtree (`mem_subtree_iff`), and subtrees of nodes are part of it
  (`subtree_sublist`);
* **order** — a parent comes before its children
  (`exists_parent_of_subtree_eq_append`), so every initial part of the list is
  closed under parents up to the start (`exists_parent_of_mem_front`);
* **identity** — where no identity occurs twice (`Cursor.DistinctIds`), a node
  of the subtree is known by its identity (`DistinctIds.eq_of_id_eq`).
-/

namespace CodeMetrics

namespace Cursor

/-! ## Induction from the leaves up -/

theorem pending_le_of_mem {d : Cursor} {cs : List Cursor} (h : d ∈ cs) :
    d.node.size ≤ pending cs := by
  induction cs with
  | nil => exact absurd h List.not_mem_nil
  | cons c rest ih =>
    rw [pending_cons]
    rcases List.mem_cons.mp h with rfl | hrest
    · omega
    · have := ih hrest
      omega

/-- A child has a smaller subtree. -/
theorem size_child_lt {c d : Cursor} (h : d ∈ c.children) : d.node.size < c.node.size := by
  have hle := pending_le_of_mem h
  have hsum := pending_children c
  omega

/-- What passes from the children of a node to the node holds of every node. -/
theorem induction_children {motive : Cursor → Prop}
    (step : ∀ c : Cursor, (∀ d ∈ c.children, motive d) → motive c) (c : Cursor) : motive c := by
  generalize hn : c.node.size = n
  induction n using Nat.strongRecOn generalizing c with
  | ind n ih =>
    apply step
    intro d hd
    have hlt := size_child_lt hd
    exact ih d.node.size (hn ▸ hlt) d rfl

/-! ## Membership -/

/-- The nodes strictly below a node, in pre-order. -/
def descendants (c : Cursor) : List Cursor := c.children.flatMap subtree

theorem subtree_eq_cons (c : Cursor) : c.subtree = c :: c.descendants := subtree_eq c

theorem self_mem_subtree (c : Cursor) : c ∈ c.subtree := by
  rw [subtree_eq]
  exact List.mem_cons_self

theorem mem_children_iff {c d : Cursor} :
    d ∈ c.children ↔ d.node ∈ c.node.children ∧ d.above = c.node :: c.above := by
  constructor
  · intro h
    obtain ⟨n, hn, rfl⟩ := List.mem_map.mp h
    exact ⟨hn, rfl⟩
  · rintro ⟨hn, ha⟩
    refine List.mem_map.mpr ⟨d.node, hn, ?_⟩
    rw [down, ← ha]

theorem childUnder?_eq_find? (c : Cursor) (name : String) :
    c.childUnder? name = c.children.find? (fun d => d.node.label.field? == some name) := by
  rw [childUnder?, Node.childUnder?, children, List.find?_map]
  rfl

theorem parent?_of_mem_children {c d : Cursor} (h : d ∈ c.children) : d.parent? = some c := by
  obtain ⟨n, _, rfl⟩ := List.mem_map.mp h
  exact parent?_down c n

theorem above_of_parent? {c p : Cursor} (h : c.parent? = some p) : c.above = p.node :: p.above := by
  obtain ⟨n, above⟩ := c
  cases above with
  | nil => cases h
  | cons q rest =>
    rw [← Option.some.inj h]

theorem mem_namedChildren_iff {c d : Cursor} :
    d ∈ c.namedChildren ↔ d ∈ c.children ∧ d.node.label.named := by
  constructor
  · intro h
    obtain ⟨n, hn, rfl⟩ := List.mem_map.mp h
    exact ⟨List.mem_map_of_mem (List.mem_filter.mp hn).1, (List.mem_filter.mp hn).2⟩
  · rintro ⟨h, hnamed⟩
    obtain ⟨n, hn, rfl⟩ := List.mem_map.mp h
    exact List.mem_map_of_mem (List.mem_filter.mpr ⟨hn, hnamed⟩)

theorem namedChildren_subset (c : Cursor) : c.namedChildren ⊆ c.children :=
  fun _ hd => (mem_namedChildren_iff.mp hd).1

/-- A node has one parent. -/
theorem eq_of_mem_children {p q d : Cursor} (hp : d ∈ p.children) (hq : d ∈ q.children) :
    p = q := by
  have h := parent?_of_mem_children hp
  rw [parent?_of_mem_children hq] at h
  exact (Option.some.inj h).symm

theorem mem_subtree_of_child {c d x : Cursor} (hd : d ∈ c.children) (hx : x ∈ d.subtree) :
    x ∈ c.subtree := by
  rw [subtree_eq]
  exact List.mem_cons_of_mem _ (List.mem_flatMap.mpr ⟨d, hd, hx⟩)

theorem child_mem_subtree {c d : Cursor} (h : d ∈ c.children) : d ∈ c.subtree :=
  mem_subtree_of_child h (self_mem_subtree d)

/-- The subtree of a node of the subtree is a part of it. -/
theorem subtree_sublist {c d : Cursor} (h : d ∈ c.subtree) : d.subtree.Sublist c.subtree := by
  induction c using induction_children with
  | step c ih =>
    rw [subtree_eq] at h
    rcases List.mem_cons.mp h with rfl | hbelow
    · exact List.Sublist.refl _
    · obtain ⟨e, he, hde⟩ := List.mem_flatMap.mp hbelow
      rw [subtree_eq c]
      refine List.Sublist.cons c ((ih e he hde).trans ?_)
      exact List.sublist_flatten_of_mem (List.mem_map_of_mem he)

theorem mem_subtree_trans {c d x : Cursor} (hd : d ∈ c.subtree) (hx : x ∈ d.subtree) :
    x ∈ c.subtree :=
  (subtree_sublist hd).subset hx

/-- Every node of the subtree but the start is a child of a node of the subtree. -/
theorem mem_subtree_iff {c d : Cursor} :
    d ∈ c.subtree ↔ d = c ∨ ∃ p ∈ c.subtree, d ∈ p.children := by
  constructor
  · intro h
    induction c using induction_children with
    | step c ih =>
      rw [subtree_eq] at h
      rcases List.mem_cons.mp h with rfl | hbelow
      · exact .inl rfl
      · obtain ⟨e, he, hde⟩ := List.mem_flatMap.mp hbelow
        rcases ih e he hde with rfl | ⟨p, hp, hdp⟩
        · exact .inr ⟨c, self_mem_subtree c, he⟩
        · exact .inr ⟨p, mem_subtree_of_child he hp, hdp⟩
  · rintro (rfl | ⟨p, hp, hdp⟩)
    · exact self_mem_subtree d
    · exact mem_subtree_trans hp (child_mem_subtree hdp)

/-- Below a node the path to the root is longer. -/
theorem length_above_lt {c d : Cursor} (h : d ∈ c.descendants) :
    c.above.length < d.above.length := by
  induction c using induction_children with
  | step c ih =>
    obtain ⟨e, he, hde⟩ := List.mem_flatMap.mp h
    have hlen : e.above.length = c.above.length + 1 := by
      rw [(mem_children_iff.mp he).2, List.length_cons]
    rw [subtree_eq_cons] at hde
    rcases List.mem_cons.mp hde with rfl | hbelow
    · omega
    · have := ih e he hbelow
      omega

theorem length_above_le {c d : Cursor} (h : d ∈ c.subtree) : c.above.length ≤ d.above.length := by
  rw [subtree_eq_cons] at h
  rcases List.mem_cons.mp h with rfl | hbelow
  · exact Nat.le_refl _
  · exact Nat.le_of_lt (length_above_lt hbelow)

/-- The parent of the start lies outside the subtree. -/
theorem not_mem_subtree_of_parent? {c p : Cursor} (h : c.parent? = some p) : p ∉ c.subtree := by
  intro hp
  have hle := length_above_le hp
  rw [above_of_parent? h, List.length_cons] at hle
  omega

/-- Within a subtree a node is a child of what stands above it. -/
theorem mem_children_of_parent? {r a p : Cursor} (ha : a ∈ r.subtree) (hp : p ∈ r.subtree)
    (h : a.parent? = some p) : a ∈ p.children := by
  rcases mem_subtree_iff.mp ha with rfl | ⟨q, _, haq⟩
  · exact absurd hp (not_mem_subtree_of_parent? h)
  · rw [parent?_of_mem_children haq, Option.some.injEq] at h
    exact h ▸ haq

/-! ## Parents come first -/

/-- The order statement for a list of siblings, given it for each of them. -/
theorem exists_sibling_of_flatMap_eq_append {ds : List Cursor}
    (ih : ∀ e ∈ ds, ∀ {front back : List Cursor} {d : Cursor},
      e.subtree = front ++ d :: back → d = e ∨ ∃ p ∈ front, d ∈ p.children)
    {front back : List Cursor} {d : Cursor} (h : ds.flatMap subtree = front ++ d :: back) :
    d ∈ ds ∨ ∃ p ∈ front, d ∈ p.children := by
  induction ds generalizing front with
  | nil => exact absurd h (by simp)
  | cons e rest ihds =>
    rw [List.flatMap_cons, List.append_eq_append_iff] at h
    rcases h with ⟨more, hfront, hrest⟩ | ⟨more, hsub, hmore⟩
    · -- the split lies behind the subtree of `e`
      rcases ihds (fun e' he' => ih e' (List.mem_cons_of_mem _ he')) hrest with hd | ⟨p, hp, hdp⟩
      · exact .inl (List.mem_cons_of_mem _ hd)
      · exact .inr ⟨p, hfront ▸ List.mem_append_right _ hp, hdp⟩
    · cases more with
      | nil =>
        -- the split lies between `e` and the siblings behind it
        have hrest : rest.flatMap subtree = [] ++ d :: back := by simpa using hmore.symm
        rcases ihds (fun e' he' => ih e' (List.mem_cons_of_mem _ he')) hrest with hd | ⟨p, hp, _⟩
        · exact .inl (List.mem_cons_of_mem _ hd)
        · exact absurd hp List.not_mem_nil
      | cons x more =>
        -- the split lies within the subtree of `e`
        rw [List.cons_append, List.cons.injEq] at hmore
        obtain ⟨rfl, _⟩ := hmore
        rcases ih e List.mem_cons_self hsub with rfl | hp
        · exact .inl List.mem_cons_self
        · exact .inr hp

/-- In pre-order a node other than the start stands behind its parent. -/
theorem exists_parent_of_subtree_eq_append {c d : Cursor} {front back : List Cursor}
    (h : c.subtree = front ++ d :: back) : d = c ∨ ∃ p ∈ front, d ∈ p.children := by
  induction c using induction_children generalizing d front back with
  | step c ih =>
    rw [subtree_eq] at h
    cases front with
    | nil =>
      rw [List.nil_append, List.cons.injEq] at h
      exact .inl h.1.symm
    | cons x front =>
      rw [List.cons_append, List.cons.injEq] at h
      obtain ⟨rfl, hbelow⟩ := h
      rcases exists_sibling_of_flatMap_eq_append (fun e he => ih e he) hbelow with
        hd | ⟨p, hp, hdp⟩
      · exact .inr ⟨c, List.mem_cons_self, hd⟩
      · exact .inr ⟨p, List.mem_cons_of_mem _ hp, hdp⟩

/-- An initial part of the pre-order is closed under parents, up to the start. -/
theorem exists_parent_of_mem_front {c d : Cursor} {front back : List Cursor}
    (h : c.subtree = front ++ back) (hd : d ∈ front) :
    d = c ∨ ∃ p ∈ front, d ∈ p.children := by
  obtain ⟨before, after, rfl⟩ := List.append_of_mem hd
  rw [List.append_assoc, List.cons_append] at h
  rcases exists_parent_of_subtree_eq_append h with rfl | ⟨p, hp, hdp⟩
  · exact .inl rfl
  · exact .inr ⟨p, List.mem_append_left _ hp, hdp⟩

/-! ## Distinct identities -/

/-- No two nodes of the subtree share an identity. -/
def DistinctIds (c : Cursor) : Prop := (c.subtree.map id).Nodup

instance (c : Cursor) : Decidable c.DistinctIds :=
  inferInstanceAs (Decidable (c.subtree.map id).Nodup)

/-- A node of the subtree is known by its identity. -/
theorem DistinctIds.eq_of_id_eq {c d e : Cursor} (distinct : c.DistinctIds)
    (hd : d ∈ c.subtree) (he : e ∈ c.subtree) (h : d.id = e.id) : d = e :=
  List.inj_on_of_nodup_map distinct hd he h

theorem DistinctIds.of_mem {c d : Cursor} (distinct : c.DistinctIds) (h : d ∈ c.subtree) :
    d.DistinctIds :=
  List.Nodup.sublist ((subtree_sublist h).map id) distinct

end Cursor

end CodeMetrics
