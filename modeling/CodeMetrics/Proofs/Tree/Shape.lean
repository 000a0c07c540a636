import CodeMetrics.Proofs.Tree.Hanging

/-!
# Shapes of trees

The shape of a tree is what is left of it when identities, rows and marks of
damage are forgotten: the types and texts of its nodes, the fields they are held
under, which of them are bare tokens, and how they lie in each other.

* `Node.shape` — the shape, itself a tree; searches of children by field, by
  type or for named ones come to the same in it;
* `Node.ownShape` — the shape without the field that the tree itself is held
  under, which is a matter of its parent;
* **kinds** — a node has the kind of its shape (`Cursor.kind_shape`);
* **subtrees** — the pre-order of a shape is that of the tree, node by node
  (`Cursor.subtree_shape`), so counts and maxima over a subtree depend on shapes
  where the counted property does (`Cursor.ByShape.countP_subtree`,
  `Cursor.ByShape.peak_subtree`).
-/

namespace CodeMetrics

/-- A label without the row and the marks of damage. -/
def Label.shape (l : Label) : Label := { l with row := 0, damaged := false, missing := false }

namespace Node

mutual

/-- The tree with identities, rows and marks of damage forgotten. -/
def shape : Node → Node
  | mk _ l cs => mk 0 l.shape (shapes cs)

/-- The shapes of a list of trees. -/
def shapes : List Node → List Node
  | [] => []
  | n :: rest => shape n :: shapes rest

end

theorem shapes_eq_map (ns : List Node) : shapes ns = ns.map shape := by
  induction ns with
  | nil => simp [shapes]
  | cons n rest ih => simp [shapes, ih]

@[simp] theorem label_shape (n : Node) : n.shape.label = n.label.shape := by
  cases n
  simp [shape, label]

@[simp] theorem children_shape (n : Node) : n.shape.children = n.children.map shape := by
  cases n
  simp [shape, children, shapes_eq_map]

@[simp] theorem type_shape (n : Node) : n.shape.type = n.type := by
  simp [type, Label.shape]

@[simp] theorem text?_shape (n : Node) : n.shape.label.text? = n.label.text? := by
  simp [Label.shape]

mutual

/-- Nothing is left to be forgotten of a shape. -/
theorem shape_shape : ∀ n : Node, n.shape.shape = n.shape
  | mk _ _ cs => by
      simp only [shape, shapes_shapes cs]
      rfl

theorem shapes_shapes : ∀ ns : List Node, shapes (shapes ns) = shapes ns
  | [] => by simp [shapes]
  | n :: rest => by simp only [shapes, shape_shape n, shapes_shapes rest]

end

/-- The tree by itself, held under no field. -/
def unheld (n : Node) : Node := mk n.id { n.label with field? := none } n.children

/-- The shape of the tree by itself. -/
def ownShape (n : Node) : Node := n.shape.unheld

theorem ownShape_shape (n : Node) : n.shape.ownShape = n.ownShape := by
  rw [ownShape, shape_shape, ownShape]

theorem ownShape_unheld (n : Node) : n.unheld.ownShape = n.ownShape := by
  cases n
  simp [ownShape, unheld, shape, Label.shape, id, label, children]

theorem ownShape_eq_of_shape_eq {n m : Node} (h : n.shape = m.shape) : n.ownShape = m.ownShape :=
  congrArg unheld h

/-! ## Children -/

theorem namedChildren_shape (n : Node) : n.shape.namedChildren = n.namedChildren.map shape := by
  unfold namedChildren
  rw [children_shape, List.filter_map]
  congr 2
  funext c
  simp [Label.shape]

theorem childUnder?_shape (n : Node) (name : String) :
    n.shape.childUnder? name = (n.childUnder? name).map shape := by
  unfold childUnder?
  rw [children_shape, List.find?_map]
  congr 2
  funext c
  simp [Label.shape]

/-- Trees of one shape hold children of one shape under a field, or neither holds any. -/
theorem childUnder?_cases_of_ownShape_eq {n m : Node} (h : n.ownShape = m.ownShape)
    (name : String) : (n.childUnder? name = none ∧ m.childUnder? name = none) ∨
      ∃ c d, n.childUnder? name = some c ∧ m.childUnder? name = some d ∧ c.shape = d.shape := by
  have hfound : (n.childUnder? name).map shape = (m.childUnder? name).map shape := by
    rw [← childUnder?_shape, ← childUnder?_shape]
    exact congrArg (·.childUnder? name) h
  cases hn : n.childUnder? name with
  | none =>
    cases hm : m.childUnder? name with
    | none => simp
    | some d => simp [hn, hm] at hfound
  | some c =>
    cases hm : m.childUnder? name with
    | none => simp [hn, hm] at hfound
    | some d =>
      right
      simpa [hn, hm] using hfound

theorem joinsConditions_shape (n : Node) : n.shape.joinsConditions = n.joinsConditions := by
  unfold joinsConditions
  rw [childUnder?_shape]
  cases n.childUnder? "operator" with
  | none => rfl
  | some op => simp

theorem exportsDefault_shape (n : Node) : n.shape.exportsDefault = n.exportsDefault := by
  simp [exportsDefault, List.any_map, Function.comp_def]

end Node

/-! ## Nodes within shapes -/

namespace Cursor

/-- A node within the shape of its tree. -/
def shape (c : Cursor) : Cursor := ⟨c.node.shape, c.above.map Node.shape⟩

@[simp] theorem node_shape (c : Cursor) : c.shape.node = c.node.shape := rfl

theorem isDefaultExport_shape (c : Cursor) : c.shape.isDefaultExport = c.isDefaultExport := by
  obtain ⟨n, above⟩ := c
  cases above with
  | nil => rfl
  | cons p rest => exact p.exportsDefault_shape

/-- A node has the kind of its shape. -/
theorem kind_shape (c : Cursor) : c.shape.kind = c.kind := by
  unfold kind
  simp only [node_shape, Node.type_shape, Node.label_shape, Node.joinsConditions_shape,
    isDefaultExport_shape, Label.shape]

theorem children_shape (c : Cursor) : c.shape.children = c.children.map shape := by
  simp [children, down, shape, Function.comp_def]

/-- The pre-order of a shape is that of the tree, node by node. -/
theorem subtree_shape (c : Cursor) : c.shape.subtree = c.subtree.map shape := by
  induction c using induction_children with
  | step c ih =>
    rw [subtree_eq, subtree_eq, List.map_cons, children_shape, List.flatMap_map, List.map_flatMap,
      List.flatMap_congr ih]

/-! ## What a node says by its shape -/

/-- What a node says by its own shape, whatever its identity and rows, whatever lies above it, and
whichever field it is held under. -/
def ByShape {α : Type _} (f : Cursor → α) : Prop :=
  ∀ c d : Cursor, c.node.ownShape = d.node.ownShape → f c = f d

section

variable {α : Type _} {f : Cursor → α} {q : Cursor → Bool} {weight : Cursor → Nat}

theorem ByShape.byNode (h : ByShape f) : ByNode f :=
  fun c d hnode => h c d (congrArg Node.ownShape hnode)

theorem ByShape.shape (h : ByShape f) (c : Cursor) : f c.shape = f c :=
  h _ _ c.node.ownShape_shape

theorem ByShape.unheld (h : ByShape f) (n : Node) : f (root n.unheld) = f (root n) :=
  h _ _ n.ownShape_unheld

/-- Three steps lead from a node to another of its shape: into the shape, out of the field that
holds it, and to a shape that lies elsewhere. -/
theorem byShape_of_byNode (hnode : ByNode f) (hshape : ∀ c, f c.shape = f c)
    (hunheld : ∀ n : Node, f (root n.unheld) = f (root n)) : ByShape f := by
  have hown : ∀ c, f c = f (root c.node.ownShape) := by
    intro c
    calc
      f c = f c.shape := (hshape c).symm
      _ = f (root c.node.shape) := hnode c.shape (root c.node.shape) rfl
      _ = f (root c.node.ownShape) := (hunheld c.node.shape).symm
  intro c d h
  rw [hown c, hown d, h]

/-! ## Kinds -/

/-- Which field holds a tree says nothing about its root. -/
theorem kind_unheld (n : Node) : (root n.unheld).kind = (root n).kind := rfl

theorem byShape_isDecision : ByShape isDecision :=
  byShape_of_byNode byNode_isDecision (fun c => by simp only [isDecision, kind_shape])
    fun n => by simp only [isDecision, kind_unheld]

/-- Whether a node has a kind that no declaration has, and that says something. -/
theorem byShape_beq_kind {k : Kind} (hdeclaration : k ≠ .functionDeclaration)
    (hother : k ≠ .other) : ByShape (fun c => c.kind == k) :=
  byShape_of_byNode (byNode_beq_kind hdeclaration hother) (fun c => by simp only [kind_shape])
    fun n => by simp only [kind_unheld]

theorem byShape_isConditional : ByShape isConditional := byShape_beq_kind (by decide) (by decide)

theorem byShape_isReturn : ByShape isReturn := byShape_beq_kind (by decide) (by decide)

theorem byShape_isLogical : ByShape isLogical := byShape_beq_kind (by decide) (by decide)

theorem byShape_isMemberAccess : ByShape isMemberAccess := byShape_beq_kind (by decide) (by decide)

/-! ## Counts and maxima -/

theorem ByShape.countP_subtree (h : ByShape q) : ByShape (fun c => c.subtree.countP q) := by
  apply byShape_of_byNode h.byNode.countP_subtree
  · intro c
    show c.shape.subtree.countP q = c.subtree.countP q
    rw [subtree_shape, List.countP_map]
    exact List.countP_congr fun d _ => by rw [Function.comp_apply, h.shape]
  · intro n
    show (root n.unheld).subtree.countP q = (root n).subtree.countP q
    rw [subtree_root, subtree_root, List.countP_cons, List.countP_cons, h.unheld,
      countP_map_hang (h.byNode.hang [n.unheld]), countP_map_hang (h.byNode.hang [n])]
    rfl

theorem ByShape.count (h : ByShape q) : ByShape (Cursor.count q) := by
  rw [count_eq_fun]
  exact h.countP_subtree

theorem ByShape.peak_subtree (h : ByShape q) (hweight : ByShape weight) :
    ByShape (fun c => peak q weight c.subtree) := by
  apply byShape_of_byNode (h.byNode.peak_subtree hweight.byNode)
  · intro c
    show peak q weight c.shape.subtree = peak q weight c.subtree
    rw [subtree_shape, peak_map h.shape hweight.shape]
  · intro n
    show peak q weight (root n.unheld).subtree = peak q weight (root n).subtree
    rw [subtree_root, subtree_root, peak_cons, peak_cons, h.unheld, hweight.unheld,
      peak_map (h.byNode.hang [n.unheld]) (hweight.byNode.hang [n.unheld]),
      peak_map (h.byNode.hang [n]) (hweight.byNode.hang [n])]
    rfl

end

end Cursor

end CodeMetrics
