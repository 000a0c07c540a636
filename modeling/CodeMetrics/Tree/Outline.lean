import CodeMetrics.Tree.Node

/-!
# Outlines

An outline lists the nodes of a tree in pre-order, each with its depth.  The
parent of an entry is the nearest earlier entry that is less deep, and the
position in the outline is the identity of the node.

* `Outline.node?` — the tree that an outline describes.
-/

namespace CodeMetrics

/-- One line of an outline. -/
structure OutlineEntry where
  depth : Nat
  label : Label
deriving Repr, DecidableEq, Inhabited

/-- The nodes of a tree in pre-order, each with its depth. -/
abbrev Outline := List OutlineEntry

namespace Outline

/-- Puts an entry in front of the trees that follow it: those that are deeper become its
children. -/
def attach (entry : OutlineEntry × Nat) (later : List (Nat × Node)) : List (Nat × Node) :=
  let deeper := later.takeWhile (fun p => entry.1.depth < p.1)
  let rest := later.dropWhile (fun p => entry.1.depth < p.1)
  (entry.1.depth, .mk entry.2 entry.1.label (deeper.map (·.2))) :: rest

/-- The trees of an outline in order, each with the depth of its root. -/
def forest (o : Outline) : List (Nat × Node) := o.zipIdx.foldr attach []

/-- The tree at the head of an outline; an empty outline has none. -/
def node? (o : Outline) : Option Node := o.forest.head?.map (·.2)

end Outline

end CodeMetrics
