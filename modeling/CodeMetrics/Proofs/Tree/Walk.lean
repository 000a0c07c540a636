import CodeMetrics.Proofs.Tree.Positions
import CodeMetrics.Tree.Parents

/-!
# The walk is the recursive pre-order

`Cursor.walk` works off a stack on which every visited node leaves its
children.  Its second side is `Cursor.traverse`, which visits a node and then
traverses its children one after the other.

* **termination** — every turn takes one node off what is pending, so a walk
  is over after as many turns as the subtree has nodes (`Walk.turns?_pending`);
* **order** — a stack stands for the traversals that are still to be made, top
  first (`Walk.run_eq_foldl`), whatever the visitor reads in the table;
* **visits** — the nodes visited are those at the positions of the subtree,
  each position once, in the order of a dictionary (`walk_eq_traverse`).
-/

namespace CodeMetrics

/-! ## Turns -/

namespace Walk

variable {σ : Type _}

/-- A walk after a number of turns; a walk that runs out of turns before has none. -/
def turns? (visit : Parents → σ → Cursor → σ) : Nat → Walk σ → Option (Walk σ)
  | 0, w => some w
  | n + 1, w => (w.step? visit).bind (turns? visit n)

theorem run_nil (visit : Parents → σ → Cursor → σ) (t : Parents) (s : σ) :
    run visit ⟨[], t, s⟩ = ⟨[], t, s⟩ := by
  rw [run]
  rfl

theorem run_cons (visit : Parents → σ → Cursor → σ) (c : Cursor) (rest : List Cursor)
    (t : Parents) (s : σ) :
    run visit ⟨c :: rest, t, s⟩ =
      run visit ⟨c.children ++ rest, t.recordChildren c, visit t s c⟩ := by
  rw [run]
  split
  · rename_i h
    rw [step?_cons] at h
    cases h
  · rename_i next h
    rw [step?_cons, Option.some.injEq] at h
    rw [h]

/-- What holds of a finished walk, and of a walk if it holds of the walk one turn on, holds of every
walk. -/
theorem induction_turns {motive : Walk σ → Prop} (visit : Parents → σ → Cursor → σ)
    (done : ∀ t s, motive ⟨[], t, s⟩)
    (turn : ∀ c rest t s, motive ⟨c.children ++ rest, t.recordChildren c, visit t s c⟩ →
      motive ⟨c :: rest, t, s⟩)
    (w : Walk σ) : motive w := by
  generalize hn : Cursor.pending w.stack = n
  induction n using Nat.strongRecOn generalizing w with
  | ind n ih =>
    obtain ⟨stack, t, s⟩ := w
    cases stack with
    | nil => exact done t s
    | cons c rest =>
      apply turn
      have hturn := pending_step? (step?_cons visit c rest t s)
      exact ih _ (by omega) ⟨c.children ++ rest, t.recordChildren c, visit t s c⟩ rfl

/-- A walk is over after as many turns as nodes are pending, and what it has become is what `run`
gives. -/
theorem turns?_pending (visit : Parents → σ → Cursor → σ) (w : Walk σ) :
    w.turns? visit (Cursor.pending w.stack) = some (w.run visit) ∧ (w.run visit).stack = [] := by
  induction w using induction_turns visit with
  | done t s =>
    rw [run_nil]
    exact ⟨rfl, rfl⟩
  | turn c rest t s ih =>
    have hturn := pending_step? (step?_cons visit c rest t s)
    rw [run_cons, ← hturn]
    show ((step? visit ⟨c :: rest, t, s⟩).bind _ = _) ∧ _
    rw [step?_cons]
    exact ih

/-! ## Order -/

/-- A visit with the links that are written after it. -/
def visitAndLink (visit : Parents → σ → Cursor → σ) (ts : Parents × σ) (c : Cursor) :
    Parents × σ :=
  (ts.1.recordChildren c, visit ts.1 ts.2 c)

/-- The stack stands for the subtrees still to be walked, each in pre-order. -/
theorem run_eq_foldl (visit : Parents → σ → Cursor → σ) (w : Walk σ) :
    ((w.run visit).parents, (w.run visit).state) =
      (w.stack.flatMap Cursor.subtree).foldl (visitAndLink visit) (w.parents, w.state) := by
  induction w using induction_turns visit with
  | done t s => rw [run_nil]; rfl
  | turn c rest t s ih =>
    rw [run_cons, ih]
    show ((c.children ++ rest).flatMap _).foldl _ _ = ((c :: rest).flatMap _).foldl _ _
    rw [List.flatMap_append, List.flatMap_cons, Cursor.subtree_eq c, List.cons_append,
      List.foldl_cons]
    rfl

end Walk

namespace Cursor

variable {σ : Type _}

theorem walk_eq_foldl (visit : Parents → σ → Cursor → σ) (c : Cursor) (t : Parents) (s : σ) :
    c.walk visit t s = c.subtree.foldl (Walk.visitAndLink visit) (t, s) := by
  have h := Walk.run_eq_foldl visit ⟨[c], t, s⟩
  rw [List.flatMap_singleton] at h
  exact h

/-- What holds before a walk and is kept by every visit holds after the walk. -/
theorem walk_invariant {visit : Parents → σ → Cursor → σ} {holds : σ → Prop}
    (hvisit : ∀ t s d, holds s → holds (visit t s d)) (c : Cursor) (t : Parents) {s : σ}
    (hs : holds s) : holds (c.walk visit t s).2 := by
  rw [walk_eq_foldl]
  generalize c.subtree = cs
  induction cs generalizing t s with
  | nil => exact hs
  | cons d rest ih => exact ih (t.recordChildren d) (hvisit t s d hs)

/-- A visitor that leaves the table alone gets from a walk what it gets from a fold. -/
theorem walk_state_eq_fold (visit : σ → Cursor → σ) (c : Cursor) (t : Parents) (s : σ) :
    (c.walk (fun _ => visit) t s).2 = c.fold visit s := by
  rw [walk_eq_foldl, fold_eq_foldl]
  generalize c.subtree = cs
  induction cs generalizing t s with
  | nil => rfl
  | cons d rest ih => exact ih (t.recordChildren d) (visit s d)

end Cursor

/-! ## The recursive traversal -/

mutual

/-- Visits a node, then traverses its children in order. -/
def Node.traverse {σ : Type _} (visit : σ → Cursor → σ) (above : List Node) : Node → σ → σ
  | .mk i l cs, s =>
      Node.traverseAll visit (.mk i l cs :: above) cs (visit s ⟨.mk i l cs, above⟩)

/-- Traverses siblings in order. -/
def Node.traverseAll {σ : Type _} (visit : σ → Cursor → σ) (above : List Node) :
    List Node → σ → σ
  | [], s => s
  | n :: rest, s => Node.traverseAll visit above rest (Node.traverse visit above n s)

end

namespace Cursor

variable {σ : Type _}

/-- The traversal of a subtree by recursion. -/
def traverse (visit : σ → Cursor → σ) (c : Cursor) (s : σ) : σ :=
  c.node.traverse visit c.above s

/-- The node first, then each child's subtree with the state that the one before has left. -/
theorem traverse_eq (visit : σ → Cursor → σ) (c : Cursor) (s : σ) :
    c.traverse visit s = c.children.foldl (fun s d => d.traverse visit s) (visit s c) := by
  have all : ∀ (above : List Node) (ns : List Node) (s : σ),
      Node.traverseAll visit above ns s =
        ns.foldl (fun s n => Node.traverse visit above n s) s := by
    intro above ns
    induction ns with
    | nil =>
      intro s
      rw [Node.traverseAll, List.foldl_nil]
    | cons n rest ih =>
      intro s
      rw [Node.traverseAll, ih, List.foldl_cons]
  obtain ⟨⟨i, l, cs⟩, above⟩ := c
  show Node.traverse visit above (.mk i l cs) s = _
  rw [Node.traverse, all, children, List.foldl_map]
  rfl

theorem traverse_eq_foldl (visit : σ → Cursor → σ) (c : Cursor) (s : σ) :
    c.traverse visit s = c.subtree.foldl visit s := by
  induction c using induction_children generalizing s with
  | step c ih =>
    rw [traverse_eq, subtree_eq, List.foldl_cons, List.foldl_flatMap]
    exact List.foldl_ext _ _ _ (fun s d hd => ih d hd s)

/-- The walk ends after one turn for each node of the subtree, with the stack empty.  It leaves the
visitor's state as the recursive traversal does.  The nodes visited on the way are those at the
positions of the subtree: every position once, and in the order of a dictionary. -/
theorem walk_eq_traverse (visit : σ → Cursor → σ) (c : Cursor) (t : Parents) (s : σ) :
    (∃ done : Walk σ,
      Walk.turns? (fun _ => visit) c.node.size ⟨[c], t, s⟩ = some done ∧ done.stack = [] ∧
        c.walk (fun _ => visit) t s = (done.parents, done.state)) ∧
    (c.walk (fun _ => visit) t s).2 = c.traverse visit s ∧
    ∃ (visited : List Cursor) (places : List (List Nat)),
      places.Pairwise (· < ·) ∧ (∀ p, p ∈ places ↔ (c.at? p).isSome) ∧
        visited.map some = places.map c.at? ∧
        (c.walk (fun _ => visit) t s).2 = visited.foldl visit s := by
  refine ⟨?_, ?_, c.subtree, c.node.positions, positions_pairwise_lt c, fun p => mem_positions_iff,
    subtree_map_some c, ?_⟩
  · obtain ⟨hturns, hstack⟩ := Walk.turns?_pending (fun _ => visit) ⟨[c], t, s⟩
    exact ⟨_, hturns, hstack, rfl⟩
  · rw [walk_state_eq_fold, fold_eq_foldl, traverse_eq_foldl]
  · rw [walk_state_eq_fold, fold_eq_foldl]

end Cursor

end CodeMetrics
