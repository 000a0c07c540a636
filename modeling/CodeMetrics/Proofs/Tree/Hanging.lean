import CodeMetrics.Proofs.Tree.Kinds

/-!
# Trees hung under further nodes

The same node can be looked at within its own tree or within a larger one of
which that tree is a part.  `Cursor.hang` puts further nodes above a cursor.

* **shape** — a subtree stays the same list of nodes, each of them hung
  (`subtree_hang`), so the pre-order of a tree is its root and the pre-orders of
  its children's trees (`subtree_root`);
* **kinds** — what lies above a node matters for declarations only
  (`kind_eq_iff_of_node_eq`), and there the parent alone (`isDeclaration_hang`);
* **counts** — hence counts and maxima over a subtree are what its root says by
  itself (`ByNode.countP_subtree`, `ByNode.peak_subtree`).
-/

namespace CodeMetrics

/-- The nodes of several trees, one tree after the other, each in pre-order. -/
def Node.listing (ns : List Node) : List Cursor := ns.flatMap (fun n => (Cursor.root n).subtree)

theorem Node.listing_append (ms ns : List Node) :
    listing (ms ++ ns) = listing ms ++ listing ns :=
  List.flatMap_append

namespace Cursor

/-- The same node, with its tree hung under the nodes of a path. -/
def hang (path : List Node) (c : Cursor) : Cursor := ⟨c.node, c.above ++ path⟩

@[simp] theorem hang_node (path : List Node) (c : Cursor) : (c.hang path).node = c.node := rfl

@[simp] theorem hang_above (path : List Node) (c : Cursor) :
    (c.hang path).above = c.above ++ path := rfl

theorem hang_injective (path : List Node) : Function.Injective (hang path) := by
  rintro ⟨n, above⟩ ⟨m, above'⟩ h
  simpa [hang] using h

/-! ## Shape -/

theorem map_down_hang (path : List Node) (c : Cursor) (ns : List Node) :
    ns.map (c.hang path).down = (ns.map c.down).map (hang path) := by
  rw [List.map_map]
  rfl

theorem children_hang (path : List Node) (c : Cursor) :
    (c.hang path).children = c.children.map (hang path) :=
  map_down_hang path c c.node.children

theorem namedChildren_hang (path : List Node) (c : Cursor) :
    (c.hang path).namedChildren = c.namedChildren.map (hang path) :=
  map_down_hang path c c.node.namedChildren

theorem subtree_hang (path : List Node) (c : Cursor) :
    (c.hang path).subtree = c.subtree.map (hang path) := by
  induction c using induction_children with
  | step c ih =>
    rw [subtree_eq, subtree_eq, List.map_cons, children_hang, List.flatMap_map, List.map_flatMap,
      List.flatMap_congr ih]

/-- The pre-order of a tree is its root, then the trees of the children hung under the root. -/
theorem subtree_root (t : Node) :
    (root t).subtree = root t :: (Node.listing t.children).map (hang [t]) := by
  have hchild : ∀ n : Node, (root t).down n = (root n).hang [t] := fun _ => rfl
  rw [subtree_eq, children, Node.listing, List.map_flatMap, List.flatMap_map]
  simp only [hchild, subtree_hang]
  rfl

theorem parent?_hang {path : List Node} {c p : Cursor} (h : c.parent? = some p) :
    (c.hang path).parent? = some (p.hang path) := by
  have habove := above_of_parent? h
  unfold parent?
  rw [hang_above, habove]
  rfl

theorem parent?_hang_root {t : Node} {c : Cursor} (h : c.parent? = none) :
    (c.hang [t]).parent? = some (root t) := by
  obtain ⟨n, above⟩ := c
  cases above with
  | nil => rfl
  | cons p above => cases h

/-! ## Kinds -/

/-- A kind that no declaration has, and that says something, does not depend on what lies above. -/
theorem kind_eq_iff_of_node_eq {c d : Cursor} (h : c.node = d.node) {k : Kind}
    (hdeclaration : k ≠ .functionDeclaration) (hother : k ≠ .other) : c.kind = k ↔ d.kind = k :=
  kind_eq_iff_of_label_eq (congrArg Node.label h) (congrArg Node.joinsConditions h) hdeclaration
    hother

/-- What a node says by itself, whatever lies above it. -/
def ByNode {α : Type _} (f : Cursor → α) : Prop := ∀ c d : Cursor, c.node = d.node → f c = f d

theorem ByLabel.byNode {α : Type _} {f : Cursor → α} (h : ByLabel f) : ByNode f :=
  fun c d hnode => h c d (congrArg Node.label hnode) (congrArg Node.joinsConditions hnode)

theorem byNode_isDecision : ByNode isDecision := byLabel_isDecision.byNode

/-- Whether a node has a kind that no declaration has, and that says something. -/
theorem byNode_beq_kind {k : Kind} (hdeclaration : k ≠ .functionDeclaration) (hother : k ≠ .other) :
    ByNode (fun c => c.kind == k) :=
  (byLabel_beq_kind hdeclaration hother).byNode

theorem byNode_isConditional : ByNode isConditional := byLabel_isConditional.byNode

theorem byNode_isLogical : ByNode isLogical := byLabel_isLogical.byNode

/-- Under a node that exports nothing by default a tree has the declarations it has by itself. -/
theorem isDeclaration_hang {t : Node} (h : t.exportsDefault = false) (c : Cursor) :
    (c.hang [t]).isDeclaration = c.isDeclaration := by
  have hexport : (c.hang [t]).isDefaultExport = c.isDefaultExport := by
    obtain ⟨n, above⟩ := c
    cases above with
    | nil => exact h
    | cons p above => rfl
  unfold isDeclaration kind
  rw [hexport, hang_node]

/-! ## Counts and maxima -/

theorem countP_map_hang {q : Cursor → Bool} {path : List Node} (h : ∀ c, q (c.hang path) = q c)
    (cs : List Cursor) : (cs.map (hang path)).countP q = cs.countP q := by
  rw [List.countP_map]
  exact List.countP_congr fun c _ => by rw [Function.comp_apply, h]

/-- Where the root does not count and hanging changes nothing, a tree has what its children's trees
have. -/
theorem filter_subtree_root {t : Node} {q : Cursor → Bool} (hroot : ¬ q (root t))
    (h : ∀ c, q (c.hang [t]) = q c) :
    (root t).subtree.filter q = ((Node.listing t.children).filter q).map (hang [t]) := by
  have hsame : q ∘ hang [t] = q := funext h
  rw [subtree_root, List.filter_cons_of_neg hroot, List.filter_map, hsame]

theorem countP_subtree_root {t : Node} {q : Cursor → Bool} (hroot : ¬ q (root t))
    (h : ∀ c, q (c.hang [t]) = q c) :
    (root t).subtree.countP q = (Node.listing t.children).countP q := by
  rw [List.countP_eq_length_filter, List.countP_eq_length_filter, filter_subtree_root hroot h,
    List.length_map]

theorem eq_hang_root (c : Cursor) : c = (root c.node).hang c.above := rfl

/-- What hanging a tree under further nodes never changes, its root says by itself. -/
theorem byNode_of_hang {α : Type _} {f : Cursor → α} (h : ∀ path c, f (c.hang path) = f c) :
    ByNode f := by
  intro c d hnode
  rw [eq_hang_root c, eq_hang_root d, h, h, hnode]

theorem ByNode.hang {α : Type _} {f : Cursor → α} (h : ByNode f) (path : List Node) (c : Cursor) :
    f (c.hang path) = f c :=
  h _ _ rfl

theorem ByNode.countP_subtree {q : Cursor → Bool} (h : ByNode q) :
    ByNode (fun c => c.subtree.countP q) := by
  refine byNode_of_hang ?_
  intro path c
  show (c.hang path).subtree.countP q = c.subtree.countP q
  rw [subtree_hang, countP_map_hang (h.hang path)]

theorem ByNode.peak_subtree {q : Cursor → Bool} {weight : Cursor → Nat} (h : ByNode q)
    (hweight : ByNode weight) : ByNode (fun c => peak q weight c.subtree) := by
  refine byNode_of_hang ?_
  intro path c
  show peak q weight (c.hang path).subtree = peak q weight c.subtree
  rw [subtree_hang, peak_map (h.hang path) (hweight.hang path)]

end Cursor

end CodeMetrics
