import CodeMetrics.Tree.Node

/-!
# Cursors

A cursor is a node together with the nodes above it, nearest first.  It is how
the library speaks of "this node of that tree": what a node means can depend
on its parent, and a walk that starts in the middle of a tree still knows what
lies above.

* `Cursor.subtree` — every cursor of the subtree in pre-order, by recursion;
* `Cursor.fold` — the same traversal with an explicit stack, which does not
  grow with the depth of the tree;
* `Cursor.fold_eq_foldl` — the two visit the same nodes in the same order.
-/

namespace CodeMetrics

/-- A node and the nodes above it, nearest first. -/
structure Cursor where
  node : Node
  above : List Node := []
deriving Repr, DecidableEq, Inhabited

namespace Cursor

/-- The cursor at the root of a tree. -/
def root (n : Node) : Cursor := ⟨n, []⟩

/-- The identity of the node under the cursor. -/
def id (c : Cursor) : Nat := c.node.id

/-- The cursor one step up. -/
def parent? (c : Cursor) : Option Cursor :=
  match c.above with
  | [] => none
  | p :: rest => some ⟨p, rest⟩

/-- The cursor at `n`, taken as a child of the node under `c`. -/
def down (c : Cursor) (n : Node) : Cursor := ⟨n, c.node :: c.above⟩

/-- The cursors at the children, in grammar order. -/
def children (c : Cursor) : List Cursor := c.node.children.map c.down

/-- The cursors at the children that are not bare tokens. -/
def namedChildren (c : Cursor) : List Cursor := c.node.namedChildren.map c.down

/-- The cursor at the first child held under the field `name`. -/
def childUnder? (c : Cursor) (name : String) : Option Cursor :=
  (c.node.childUnder? name).map c.down

@[simp] theorem parent?_down (c : Cursor) (n : Node) : (c.down n).parent? = some c := rfl

end Cursor

/-! ## Pre-order by recursion -/

mutual

/-- Every cursor of the subtree at a node, in pre-order. -/
def Node.cursors (above : List Node) : Node → List Cursor
  | .mk i l cs => ⟨.mk i l cs, above⟩ :: Node.cursorsAll (.mk i l cs :: above) cs

/-- Every cursor of a list of sibling subtrees, in pre-order. -/
def Node.cursorsAll (above : List Node) : List Node → List Cursor
  | [] => []
  | n :: rest => Node.cursors above n ++ Node.cursorsAll above rest

end

mutual

theorem Node.length_cursors (above : List Node) : ∀ n : Node, (n.cursors above).length = n.size
  | .mk i l cs => by
      rw [Node.cursors, Node.size, List.length_cons, Node.length_cursorsAll _ cs, Nat.add_comm]

theorem Node.length_cursorsAll (above : List Node) :
    ∀ ns : List Node, (Node.cursorsAll above ns).length = Node.sizeAll ns
  | [] => by rw [Node.cursorsAll, Node.sizeAll, List.length_nil]
  | n :: rest => by
      rw [Node.cursorsAll, Node.sizeAll, List.length_append, Node.length_cursors _ n,
        Node.length_cursorsAll _ rest]

end

namespace Cursor

/-- The cursor itself, then the subtree of each child in turn. -/
def subtree (c : Cursor) : List Cursor := c.node.cursors c.above

theorem subtree_eq (c : Cursor) : c.subtree = c :: c.children.flatMap subtree := by
  have all : ∀ (above : List Node) (ns : List Node),
      Node.cursorsAll above ns = ns.flatMap (Node.cursors above) := by
    intro above ns
    induction ns with
    | nil => simp [Node.cursorsAll]
    | cons n rest ih => simp [Node.cursorsAll, ih]
  obtain ⟨⟨i, l, cs⟩, above⟩ := c
  simp [subtree, Node.cursors, all, children, down, Node.children, List.flatMap_map]

theorem subtree_length (c : Cursor) : c.subtree.length = c.node.size :=
  Node.length_cursors c.above c.node

/-! ## Pre-order with a stack -/

/-- The number of nodes that a stack of subtrees still holds. -/
def pending (stack : List Cursor) : Nat := stack.foldr (fun c n => c.node.size + n) 0

@[simp] theorem pending_nil : pending [] = 0 := rfl

@[simp] theorem pending_cons (c : Cursor) (rest : List Cursor) :
    pending (c :: rest) = c.node.size + pending rest := rfl

@[simp] theorem pending_append (xs ys : List Cursor) :
    pending (xs ++ ys) = pending xs + pending ys := by
  induction xs with
  | nil => simp
  | cons c rest ih => simp [ih, Nat.add_assoc]

theorem pending_children (c : Cursor) : pending c.children + 1 = c.node.size := by
  have all : ∀ ns : List Node, pending (ns.map c.down) = Node.sizeAll ns := by
    intro ns
    induction ns with
    | nil => simp
    | cons n rest ih => simp [ih, down]
  rw [children, all, Node.size_eq, Nat.add_comm]

/-- Visits the top of the stack, puts its children in its place, and goes on until the stack is
empty. -/
def foldStack {σ : Type _} (visit : σ → Cursor → σ) : List Cursor → σ → σ
  | [], s => s
  | c :: rest, s => foldStack visit (c.children ++ rest) (visit s c)
termination_by stack => pending stack
decreasing_by
  have := pending_children c
  simp only [pending_append, pending_cons]
  omega

/-- Visits the node under the cursor and every descendant in pre-order. -/
def fold {σ : Type _} (visit : σ → Cursor → σ) (c : Cursor) (s : σ) : σ :=
  foldStack visit [c] s

theorem foldStack_eq_foldl {σ : Type _} (visit : σ → Cursor → σ) (stack : List Cursor) (s : σ) :
    foldStack visit stack s = (stack.flatMap subtree).foldl visit s := by
  fun_induction foldStack visit stack s with
  | case1 s => rfl
  | case2 c rest s ih =>
      rw [ih, List.flatMap_append, List.flatMap_cons, subtree_eq c]
      simp

/-- The stack visits the recursive pre-order. -/
theorem fold_eq_foldl {σ : Type _} (visit : σ → Cursor → σ) (c : Cursor) (s : σ) :
    fold visit c s = c.subtree.foldl visit s := by
  simp [fold, foldStack_eq_foldl]

/-! ## Counts and maxima -/

/-- The number of nodes of the subtree that satisfy `p`. -/
def count (p : Cursor → Bool) (c : Cursor) : Nat :=
  c.fold (fun n d => if p d then n + 1 else n) 0

theorem count_eq_countP (p : Cursor → Bool) (c : Cursor) : c.count p = c.subtree.countP p := by
  have shift : ∀ (xs : List Cursor) (k : Nat),
      xs.foldl (fun n d => if p d then n + 1 else n) k = k + xs.countP p := by
    intro xs
    induction xs with
    | nil => simp
    | cons x rest ih =>
        intro k
        by_cases h : p x <;> simp [ih, h, Nat.add_comm, Nat.add_left_comm]
  rw [count, fold_eq_foldl, shift, Nat.zero_add]

/-- The largest weight of a node of the subtree that satisfies `p`, and zero if none does. -/
def maxOver (p : Cursor → Bool) (weight : Cursor → Nat) (c : Cursor) : Nat :=
  c.fold (fun m d => if p d then max m (weight d) else m) 0

end Cursor

end CodeMetrics
