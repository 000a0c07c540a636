import CodeMetrics.Proofs.Tree.Hanging
import CodeMetrics.Tree.Outline

/-!
# Identities in the trees of an outline

An entry of an outline becomes a node with the entry's position for its
identity.  Read in pre-order, the trees of an outline have the positions for
their identities one after the other (`Outline.ids_forest`), so no tree has one
of them twice (`Outline.distinctIds_of_node?`): what is said of trees with
distinct identities is said of every tree that an outline describes.
-/

namespace CodeMetrics

namespace Cursor

/-- The identities of a tree: that of the root, then those of the children's trees. -/
theorem map_id_subtree_root (t : Node) :
    (root t).subtree.map id = t.id :: (Node.listing t.children).map id := by
  have hhang : id ∘ hang [t] = id := rfl
  rw [subtree_root, List.map_cons, List.map_map, hhang]
  rfl

end Cursor

namespace Outline

/-- An entry put in front of trees puts its position in front of their identities. -/
theorem ids_attach (entry : OutlineEntry × Nat) (later : List (Nat × Node)) :
    (Node.listing ((attach entry later).map (·.2))).map Cursor.id =
      entry.2 :: (Node.listing (later.map (·.2))).map Cursor.id := by
  have hlater : Node.listing (later.map (·.2)) =
      Node.listing ((later.takeWhile (fun p => entry.1.depth < p.1)).map (·.2)) ++
        Node.listing ((later.dropWhile (fun p => entry.1.depth < p.1)).map (·.2)) := by
    rw [← Node.listing_append, ← List.map_append, List.takeWhile_append_dropWhile]
  unfold attach
  rw [List.map_cons, Node.listing, List.flatMap_cons, List.map_append,
    Cursor.map_id_subtree_root, hlater, List.map_append]
  rfl

/-- The trees of an outline have its positions for their identities, in order. -/
theorem ids_forest (o : Outline) :
    (Node.listing (o.forest.map (·.2))).map Cursor.id = List.range o.length := by
  have all : ∀ entries : List (OutlineEntry × Nat),
      (Node.listing ((entries.foldr attach []).map (·.2))).map Cursor.id =
        entries.map (·.2) := by
    intro entries
    induction entries with
    | nil => rfl
    | cons entry rest ih => rw [List.foldr_cons, ids_attach, ih, List.map_cons]
  rw [forest, all, List.zipIdx_map_snd, List.range_eq_range']

/-- A tree that an outline describes has distinct identities. -/
theorem distinctIds_of_node? {o : Outline} {t : Node} (h : o.node? = some t) :
    (Cursor.root t).DistinctIds := by
  obtain ⟨⟨depth, n⟩, hhead, rfl⟩ := Option.map_eq_some_iff.mp h
  obtain ⟨rest, hforest⟩ := List.head?_eq_some_iff.mp hhead
  have hids := ids_forest o
  rw [hforest, List.map_cons, Node.listing, List.flatMap_cons, List.map_append] at hids
  have hnodup : (((Cursor.root n).subtree.map Cursor.id) ++
      ((rest.map (·.2)).flatMap fun n => (Cursor.root n).subtree).map Cursor.id).Nodup := by
    rw [hids]
    exact List.nodup_range
  exact (List.nodup_append.mp hnodup).1

end Outline

end CodeMetrics
