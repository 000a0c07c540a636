/-!
# Nodes of a syntax tree

A syntax tree is a finite tree of labelled nodes.  Every node carries an
identity that is unique within its tree, the grammar's name for its type, the
row it starts on, and the field under which its parent holds it.

* `Node` — a node with its children, in grammar order;
* `Node.size` — the number of nodes of the subtree, the measure of every walk;
* `Node.childUnder?` — the first child held under a field;
* `Node.namedChildren` — the children that are not bare tokens.
-/

namespace CodeMetrics

/-- What a grammar says about one node, its children apart. -/
structure Label where
  /-- The grammar's name for the node. -/
  type : String
  /-- The row the node starts on, counted from zero. -/
  row : Nat
  /-- False for bare tokens such as keywords and brackets. -/
  named : Bool := true
  /-- The field under which the parent holds the node. -/
  field? : Option String := none
  /-- The source text of the node, where it is known. -/
  text? : Option String := none
  /-- Whether the subtree is reported to hold a syntax error. -/
  damaged : Bool := false
  /-- Whether the parser put the node in to recover from an error. -/
  missing : Bool := false
deriving Repr, DecidableEq, Inhabited

/-- A node of a syntax tree with its children in grammar order. -/
inductive Node where
  | mk (id : Nat) (label : Label) (children : List Node)
deriving Repr, Inhabited

namespace Node

mutual

/-- Equality of nodes, decided label by label. -/
def decEq : (a b : Node) → Decidable (a = b)
  | mk i l cs, mk j m ds =>
      match decEqAll cs ds with
      | isTrue same => decidable_of_iff (i = j ∧ l = m) (by simp [same])
      | isFalse differ => isFalse (by simp [differ])

/-- Equality of lists of nodes, decided node by node. -/
def decEqAll : (as bs : List Node) → Decidable (as = bs)
  | [], [] => isTrue rfl
  | [], _ :: _ => isFalse (by simp)
  | _ :: _, [] => isFalse (by simp)
  | a :: as, b :: bs =>
      match decEq a b, decEqAll as bs with
      | isTrue h, isTrue hs => isTrue (by rw [h, hs])
      | isFalse h, _ => isFalse (by simp [h])
      | _, isFalse hs => isFalse (by simp [hs])

end

instance : DecidableEq Node := decEq

/-- The identity of the node within its tree. -/
def id : Node → Nat
  | mk i _ _ => i

/-- The label of the node. -/
def label : Node → Label
  | mk _ l _ => l

/-- The children of the node, bare tokens included. -/
def children : Node → List Node
  | mk _ _ cs => cs

/-- The grammar's name for the node. -/
def type (n : Node) : String := n.label.type

/-- The line the node starts on, counted from one. -/
def line (n : Node) : Nat := n.label.row + 1

/-- The children that are not bare tokens. -/
def namedChildren (n : Node) : List Node :=
  n.children.filter (·.label.named)

/-- The first child held under the field `name`. -/
def childUnder? (n : Node) (name : String) : Option Node :=
  n.children.find? (fun c => c.label.field? == some name)

mutual

/-- The number of nodes of the subtree, the node itself included. -/
def size : Node → Nat
  | mk _ _ cs => 1 + sizeAll cs

/-- The number of nodes of a list of subtrees. -/
def sizeAll : List Node → Nat
  | [] => 0
  | n :: rest => size n + sizeAll rest

end

theorem size_eq (n : Node) : n.size = 1 + sizeAll n.children := by
  cases n
  rw [size, children]

@[simp] theorem sizeAll_nil : sizeAll [] = 0 := by
  rw [sizeAll]

@[simp] theorem sizeAll_cons (n : Node) (rest : List Node) :
    sizeAll (n :: rest) = n.size + sizeAll rest := by
  rw [sizeAll]

end Node

end CodeMetrics
