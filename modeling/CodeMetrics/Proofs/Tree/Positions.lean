import CodeMetrics.Proofs.Tree.Subtree

/-!
# Positions in a tree

A position is the list of child indices that leads from a node to one below
it.  Two nodes of a tree may look alike; their positions differ.  The
pre-order lists each position once, in the order of a dictionary
(`positions_pairwise_lt`, `subtree_map_some`): that order is the second way of
saying pre-order, without recursion.
-/

namespace CodeMetrics

/-- The node at a position; a position that leads out of the tree has none. -/
def Cursor.at? (c : Cursor) : List Nat → Option Cursor
  | [] => some c
  | i :: rest => c.children[i]?.bind (fun d => d.at? rest)

mutual

/-- The positions of a tree. -/
def Node.positions : Node → List (List Nat)
  | .mk _ _ cs => [] :: Node.positionsFrom 0 cs

/-- The positions within siblings, the first of which has the index `k`. -/
def Node.positionsFrom (k : Nat) : List Node → List (List Nat)
  | [] => []
  | n :: rest => n.positions.map (k :: ·) ++ Node.positionsFrom (k + 1) rest

end

namespace Node

theorem positionsFrom_eq (k : Nat) (ns : List Node) :
    positionsFrom k ns = (ns.zipIdx k).flatMap (fun e => e.1.positions.map (e.2 :: ·)) := by
  induction ns generalizing k with
  | nil => rw [positionsFrom, List.zipIdx_nil, List.flatMap_nil]
  | cons n rest ih => rw [positionsFrom, List.zipIdx_cons, List.flatMap_cons, ih]

theorem positions_eq (n : Node) :
    n.positions = [] :: n.children.zipIdx.flatMap (fun e => e.1.positions.map (e.2 :: ·)) := by
  cases n
  rw [positions, positionsFrom_eq, children]

end Node

namespace Cursor

theorem children_getElem? (c : Cursor) (i : Nat) :
    c.children[i]? = c.node.children[i]?.map c.down :=
  List.getElem?_map ..

theorem at?_cons (c : Cursor) (i : Nat) (rest : List Nat) :
    c.at? (i :: rest) = c.node.children[i]?.bind (fun n => (c.down n).at? rest) := by
  rw [at?, children_getElem?, Option.bind_map]
  rfl

/-- A child among the numbered children is a child. -/
theorem down_mem_children {c : Cursor} {e : Node × Nat} (h : e ∈ c.node.children.zipIdx) :
    c.down e.1 ∈ c.children :=
  List.mem_map_of_mem (List.fst_mem_of_mem_zipIdx h)

/-- The positions listed are those that lead to a node. -/
theorem mem_positions_iff {c : Cursor} {p : List Nat} :
    p ∈ c.node.positions ↔ (c.at? p).isSome := by
  induction c using induction_children generalizing p with
  | step c ih =>
    rw [Node.positions_eq]
    cases p with
    | nil => simp [at?]
    | cons i q =>
      simp only [List.mem_cons, reduceCtorEq, false_or, List.mem_flatMap, List.mem_map,
        List.cons.injEq]
      rw [at?_cons]
      constructor
      · rintro ⟨⟨n, j⟩, hn, q', hq, rfl, rfl⟩
        have hget := List.mem_zipIdx_iff_getElem?.mp hn
        rw [hget]
        exact (ih _ (down_mem_children hn)).mp hq
      · intro h
        obtain ⟨d, hd⟩ := Option.isSome_iff_exists.mp h
        obtain ⟨n, hn, hdn⟩ := Option.bind_eq_some_iff.mp hd
        have hmem : (n, i) ∈ c.node.children.zipIdx := List.mem_zipIdx_iff_getElem?.mpr hn
        refine ⟨(n, i), hmem, q, (ih _ (down_mem_children hmem)).mpr ?_, rfl, rfl⟩
        rw [hdn, Option.isSome_some]

theorem zipIdx_pairwise_lt {α : Type _} (xs : List α) (k : Nat) :
    (xs.zipIdx k).Pairwise (fun a b => a.2 < b.2) := by
  have h : ((xs.zipIdx k).map Prod.snd).Pairwise (· < ·) := by
    rw [List.zipIdx_map_snd]
    exact List.pairwise_lt_range' ..
  exact List.pairwise_map.mp h

/-- Positions are listed in the order of a dictionary, hence each once. -/
theorem positions_pairwise_lt (c : Cursor) : c.node.positions.Pairwise (· < ·) := by
  induction c using induction_children with
  | step c ih =>
    rw [Node.positions_eq, List.pairwise_cons]
    constructor
    · intro p hp
      obtain ⟨e, _, hq⟩ := List.mem_flatMap.mp hp
      obtain ⟨q, _, rfl⟩ := List.mem_map.mp hq
      exact List.nil_lt_cons e.2 q
    · rw [List.pairwise_flatMap]
      constructor
      · -- within one child the first index is shared
        intro e he
        refine List.pairwise_map.mpr ((ih _ (down_mem_children he)).imp ?_)
        intro p q hpq
        exact List.cons_lt_cons_iff.mpr (.inr ⟨rfl, hpq⟩)
      · -- of two children the first index decides
        refine (zipIdx_pairwise_lt _ 0).imp ?_
        intro a b hab p hp q hq
        obtain ⟨p', _, rfl⟩ := List.mem_map.mp hp
        obtain ⟨q', _, rfl⟩ := List.mem_map.mp hq
        exact List.cons_lt_cons_iff.mpr (.inl hab)

/-- The pre-order is the list of the nodes at the positions. -/
theorem subtree_map_some (c : Cursor) : c.subtree.map some = c.node.positions.map c.at? := by
  induction c using induction_children with
  | step c ih =>
    rw [subtree_eq, Node.positions_eq, List.map_cons, List.map_cons, List.map_flatMap,
      List.map_flatMap]
    have hchild : ∀ e ∈ c.node.children.zipIdx,
        (e.1.positions.map (e.2 :: ·)).map c.at? = (c.down e.1).subtree.map some := by
      intro e he
      rw [ih _ (down_mem_children he), List.map_map]
      refine List.map_congr_left ?_
      intro q _
      rw [Function.comp_apply, at?_cons, List.mem_zipIdx_iff_getElem?.mp he]
      rfl
    have hnodes : c.node.children = c.node.children.zipIdx.map Prod.fst :=
      (List.zipIdx_map_fst 0 c.node.children).symm
    have hlist : c.children.flatMap (fun d => d.subtree.map some) =
        c.node.children.zipIdx.flatMap (fun e => (c.down e.1).subtree.map some) := by
      conv_lhs => rw [children, hnodes]
      rw [List.map_map, List.flatMap_map]
      rfl
    rw [hlist, List.flatMap_congr hchild]
    rfl

/-- What stands at a position is a node of the subtree. -/
theorem mem_subtree_of_at? {c d : Cursor} {q : List Nat} (h : c.at? q = some d) :
    d ∈ c.subtree := by
  have hq : q ∈ c.node.positions := mem_positions_iff.mpr (by rw [h, Option.isSome_some])
  have hmem : some d ∈ c.subtree.map some := by
    rw [subtree_map_some, ← h]
    exact List.mem_map_of_mem hq
  obtain ⟨e, he, heq⟩ := List.mem_map.mp hmem
  exact Option.some.inj heq ▸ he

end Cursor

end CodeMetrics
