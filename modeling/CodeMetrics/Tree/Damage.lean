import CodeMetrics.Tree.Node

/-!
# Damage in a syntax tree

A parser that recovers from an error marks the place with an error node or
puts in a token that the source lacks, and reports the damage on the nodes
above.  The search for the first such place follows these reports and leaves
sound subtrees alone.

* `Node.firstDamaged?` — the first damaged place among a stack of subtrees;
* `Node.damagedLine?` — the line to report for a whole tree.
-/

namespace CodeMetrics

namespace Node

/-- Whether the node itself marks a syntax error. -/
def isDamage (n : Node) : Bool := n.type == "ERROR" || n.label.missing

/-- Whether a search for damage has a reason to enter the node. -/
def mayHoldDamage (n : Node) : Bool := n.label.damaged || n.label.missing

theorem sizeAll_append (xs ys : List Node) : sizeAll (xs ++ ys) = sizeAll xs + sizeAll ys := by
  induction xs with
  | nil => simp
  | cons x rest ih => simp [ih, Nat.add_assoc]

theorem sizeAll_filter_le (p : Node → Bool) (xs : List Node) :
    sizeAll (xs.filter p) ≤ sizeAll xs := by
  induction xs with
  | nil => simp
  | cons x rest ih =>
      by_cases h : p x <;> simp [h] <;> omega

/-- The first damaged node, in pre-order, of a stack of subtrees; subtrees that report no damage
are not entered. -/
def firstDamaged? : List Node → Option Node
  | [] => none
  | n :: rest =>
      if n.isDamage then some n
      else firstDamaged? (n.children.filter mayHoldDamage ++ rest)
termination_by stack => sizeAll stack
decreasing_by
  have := sizeAll_filter_le mayHoldDamage n.children
  rw [sizeAll_append, sizeAll_cons, size_eq]
  omega

/-- The line of the first damaged place of a tree that reports damage.  Where the report leads
nowhere, the tree itself is the place. -/
def damagedLine? (n : Node) : Option Nat :=
  if n.label.damaged then some ((firstDamaged? [n]).getD n).line else none

end Node

end CodeMetrics
