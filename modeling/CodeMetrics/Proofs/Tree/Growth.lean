import CodeMetrics.Proofs.Tree.Counterparts
import CodeMetrics.Proofs.Tree.Kinds
import CodeMetrics.Proofs.Tree.Positions

/-!
# Trees that have grown

A tree grows where further subtrees, held under no field, are put behind the
children of its nodes.  What was there before keeps its place:

* `Node.graft` — one subtree put behind the children of the node at a position;
* `Node.GrowsTo`, `Cursor.GrowsTo` — a tree against what it has grown to, and a
  node of it against its counterpart there;
* **children** — the new children stand last and under no field, so a search by
  field finds the old ones (`Node.GrowsTo.childUnder?_cases`), and the first
  named child stays the first (`Cursor.GrowsTo.head?_namedChildren`);
* **subtrees** — all nodes of a subtree have counterparts in the grown one
  (`Cursor.GrowsTo.subtree`), at the same positions (`Cursor.GrowsTo.at?`), with
  the same identities and kinds (`Cursor.GrowsTo.eq_of_byLabel`).
-/

namespace CodeMetrics

namespace Node

/-- The tree with `n` put behind the children of the node at a position.  A position that leads out
of the tree leaves it as it is. -/
def graft : Node → List Nat → Node → Node
  | .mk i l cs, [], n => .mk i l (cs ++ [n])
  | .mk i l cs, k :: rest, n => .mk i l (cs.modify k (fun c => c.graft rest n))

/-- What a tree grows to when subtrees held under no field are put behind the children of some of
its nodes. -/
inductive GrowsTo : Node → Node → Prop
  | mk {i : Nat} {l : Label} {cs ds new : List Node} :
      List.Forall₂ GrowsTo cs ds → (∀ n ∈ new, n.label.field? = none) →
        GrowsTo (.mk i l cs) (.mk i l (ds ++ new))

/-- A tree that grows below its children only. -/
theorem growsTo_of_forall₂ {i : Nat} {l : Label} {cs ds : List Node}
    (h : List.Forall₂ GrowsTo cs ds) : (mk i l cs).GrowsTo (mk i l ds) := by
  have hnone : (mk i l cs).GrowsTo (mk i l (ds ++ [])) :=
    .mk h fun n hn => absurd hn List.not_mem_nil
  rwa [List.append_nil] at hnone

mutual

theorem growsTo_self : ∀ t : Node, t.GrowsTo t
  | .mk _ _ cs => growsTo_of_forall₂ (forall₂_growsTo_self cs)

theorem forall₂_growsTo_self : ∀ cs : List Node, List.Forall₂ GrowsTo cs cs
  | [] => .nil
  | c :: rest => .cons (growsTo_self c) (forall₂_growsTo_self rest)

end

theorem forall₂_growsTo_modify {grow : Node → Node} (h : ∀ c : Node, c.GrowsTo (grow c))
    (cs : List Node) (k : Nat) : List.Forall₂ GrowsTo cs (cs.modify k grow) := by
  induction cs generalizing k with
  | nil =>
    rw [List.modify_nil]
    exact .nil
  | cons c rest ih =>
    cases k with
    | zero =>
      rw [List.modify_zero_cons]
      exact .cons (h c) (forall₂_growsTo_self rest)
    | succ k =>
      rw [List.modify_succ_cons]
      exact .cons (growsTo_self c) (ih k)

/-- Grafting a subtree held under no field lets a tree grow, whatever the position. -/
theorem growsTo_graft {n : Node} (h : n.label.field? = none) (t : Node) (p : List Nat) :
    t.GrowsTo (t.graft p n) := by
  induction p generalizing t with
  | nil =>
    obtain ⟨i, l, cs⟩ := t
    refine .mk (forall₂_growsTo_self cs) ?_
    intro m hm
    rw [List.mem_singleton.mp hm, h]
  | cons k rest ih =>
    obtain ⟨i, l, cs⟩ := t
    exact growsTo_of_forall₂ (forall₂_growsTo_modify ih cs k)

namespace GrowsTo

variable {t u : Node}

theorem id_eq (h : t.GrowsTo u) : t.id = u.id := by
  cases h
  rfl

theorem label_eq (h : t.GrowsTo u) : t.label = u.label := by
  cases h
  rfl

theorem type_eq (h : t.GrowsTo u) : t.type = u.type := congrArg Label.type h.label_eq

/-- Nodes picked out by their labels are counterparts of nodes picked out by the same test. -/
theorem forall₂_filter {ns ms : List Node} (h : List.Forall₂ GrowsTo ns ms) (p : Label → Bool) :
    List.Forall₂ GrowsTo (ns.filter (fun n => p n.label)) (ms.filter (fun m => p m.label)) := by
  refine List.rel_filter ?_ h
  intro n m hnm
  show p n.label ↔ p m.label
  rw [hnm.label_eq]

/-- The counterparts of the old children come first. -/
theorem children (h : t.GrowsTo u) :
    ∃ old new, u.children = old ++ new ∧ List.Forall₂ GrowsTo t.children old ∧
      ∀ n ∈ new, n.label.field? = none := by
  cases h with
  | mk hold hnew => exact ⟨_, _, rfl, hold, hnew⟩

theorem namedChildren (h : t.GrowsTo u) :
    ∃ old new, u.namedChildren = old ++ new ∧ List.Forall₂ GrowsTo t.namedChildren old := by
  obtain ⟨old, new, hchildren, hold, _⟩ := h.children
  refine ⟨old.filter (·.label.named), new.filter (·.label.named), ?_, ?_⟩
  · rw [Node.namedChildren, hchildren, List.filter_append]
  · exact forall₂_filter hold (·.named)

/-- What is new is held under no field, so a search by field finds what it found. -/
theorem childUnder?_cases (h : t.GrowsTo u) (name : String) :
    (t.childUnder? name = none ∧ u.childUnder? name = none) ∨
      ∃ c d, t.childUnder? name = some c ∧ u.childUnder? name = some d ∧ c.GrowsTo d := by
  obtain ⟨old, new, hchildren, hold, hnew⟩ := h.children
  have hnone : new.find? (fun c => c.label.field? == some name) = none := by
    rw [List.find?_eq_none]
    intro n hn
    simp [hnew n hn]
  unfold childUnder?
  rw [hchildren, List.find?_append, hnone, Option.or_none, ← List.head?_filter,
    ← List.head?_filter]
  exact head?_cases_of_forall₂ (forall₂_filter hold (·.field? == some name))

theorem label_childUnder? (h : t.GrowsTo u) (name : String) :
    (t.childUnder? name).map label = (u.childUnder? name).map label := by
  rcases h.childUnder?_cases name with ⟨ht, hu⟩ | ⟨c, d, ht, hu, hcd⟩
  · rw [ht, hu]
  · rw [ht, hu, Option.map_some, Option.map_some, hcd.label_eq]

theorem joinsConditions_eq (h : t.GrowsTo u) : t.joinsConditions = u.joinsConditions := by
  rw [joinsConditions_eq_any, joinsConditions_eq_any, h.label_childUnder?]

end GrowsTo

end Node

namespace Cursor

/-- A node of a tree against its counterpart in what the tree has grown to. -/
structure GrowsTo (c d : Cursor) : Prop where
  node : c.node.GrowsTo d.node
  above : List.Forall₂ Node.GrowsTo c.above d.above

theorem growsTo_root {t u : Node} (h : t.GrowsTo u) : (root t).GrowsTo (root u) :=
  ⟨h, .nil⟩

namespace GrowsTo

variable {c d e f : Cursor}

theorem id_eq (h : c.GrowsTo d) : c.id = d.id := h.node.id_eq

/-- What a node says by its label and its operator it goes on to say. -/
theorem eq_of_byLabel {α : Type _} {say : Cursor → α} (h : c.GrowsTo d) (hsay : ByLabel say) :
    say c = say d :=
  hsay c d h.node.label_eq h.node.joinsConditions_eq

theorem kind_eq_iff (h : c.GrowsTo d) {k : Kind} (hdeclaration : k ≠ .functionDeclaration)
    (hother : k ≠ .other) : c.kind = k ↔ d.kind = k :=
  kind_eq_iff_of_label_eq h.node.label_eq h.node.joinsConditions_eq hdeclaration hother

theorem down {n m : Node} (h : c.GrowsTo d) (hnm : n.GrowsTo m) : (c.down n).GrowsTo (d.down m) :=
  ⟨hnm, .cons h.node h.above⟩

theorem map_down {ns ms : List Node} (h : c.GrowsTo d) (hns : List.Forall₂ Node.GrowsTo ns ms) :
    List.Forall₂ GrowsTo (ns.map c.down) (ms.map d.down) :=
  List.rel_map (fun _ _ hnm => h.down hnm) hns

/-! ## Children -/

/-- What is new stands last, so the first named child stays the first. -/
theorem head?_namedChildren (h : c.GrowsTo d) (he : c.namedChildren.head? = some e) :
    ∃ f, d.namedChildren.head? = some f ∧ e.GrowsTo f := by
  obtain ⟨old, new, hnamed, hold⟩ := h.node.namedChildren
  have hsplit : d.namedChildren = old.map d.down ++ new.map d.down := by
    rw [namedChildren, hnamed, List.map_append]
  rcases head?_cases_of_forall₂ (h.map_down hold) with ⟨hnone, _⟩ | ⟨e', f, he', hf, hef⟩
  · exact absurd (hnone.symm.trans he) (by simp)
  · have hsame : e' = e := Option.some.inj (he'.symm.trans he)
    refine ⟨f, ?_, hsame ▸ hef⟩
    rw [hsplit, List.head?_append, hf, Option.some_or]

/-! ## Subtrees -/

/-- Every node of the subtree has a counterpart in the grown subtree, in the same order. -/
theorem subtree (h : c.GrowsTo d) : List.SublistForall₂ GrowsTo c.subtree d.subtree := by
  induction c using induction_children generalizing d with
  | step c ih =>
    obtain ⟨old, new, hchildren, hold, _⟩ := h.node.children
    have hsplit : d.children = old.map d.down ++ new.map d.down := by
      rw [Cursor.children, hchildren, List.map_append]
    have hold' : List.SublistForall₂ GrowsTo (c.children.flatMap Cursor.subtree)
        ((old.map d.down).flatMap Cursor.subtree) :=
      sublistForall₂_flatMap (h.map_down hold) fun e he _ hef => ih e he hef
    rw [subtree_eq c, subtree_eq d, hsplit, List.flatMap_append]
    -- behind the counterparts there is only what is new
    exact .cons h (sublistForall₂_append_right hold' _)

/-- A node keeps its position. -/
theorem at? {q : List Nat} (h : c.GrowsTo d) (he : c.at? q = some e) :
    ∃ f, d.at? q = some f ∧ e.GrowsTo f := by
  induction q generalizing c d with
  | nil => exact ⟨d, rfl, Option.some.inj he ▸ h⟩
  | cons i rest ih =>
    rw [at?_cons] at he
    obtain ⟨n, hn, hrest⟩ := Option.bind_eq_some_iff.mp he
    obtain ⟨old, new, hchildren, hold, _⟩ := h.node.children
    obtain ⟨m, hm, hnm⟩ := getElem?_of_forall₂ hold hn
    have hget : d.node.children[i]? = some m := by
      rw [hchildren, List.getElem?_append_left (List.getElem?_eq_some_iff.mp hm).1, hm]
    obtain ⟨f, hf, hef⟩ := ih (h.down hnm) hrest
    refine ⟨f, ?_, hef⟩
    rw [at?_cons, hget, Option.bind_some, hf]

/-- A parent within the grown subtree is the counterpart of a parent within the subtree. -/
theorem exists_parent {p : Cursor} (h : c.GrowsTo d) (he : e ∈ c.subtree) (hef : e.GrowsTo f)
    (hp : f.parent? = some p) (hmem : p ∈ d.subtree) :
    ∃ a ∈ c.subtree, e.parent? = some a ∧ a.GrowsTo p := by
  rcases mem_subtree_iff.mp he with rfl | ⟨a, ha, hea⟩
  · -- the counterpart of the start lies no deeper than the start of the grown subtree
    have hle : d.above.length ≤ p.above.length := length_above_le hmem
    have hdepth : e.above.length = d.above.length := h.above.length_eq
    have hdepth' : e.above.length = f.above.length := hef.above.length_eq
    rw [above_of_parent? hp, List.length_cons] at hdepth'
    omega
  · have hparent : e.parent? = some a := parent?_of_mem_children hea
    rcases parent?_cases_of_forall₂ hef.above with ⟨hnone, _⟩ | ⟨a', p', ha', hp', hnode, habove⟩
    · exact absurd (hnone.symm.trans hparent) (by simp)
    · have hsame : a' = a := Option.some.inj (ha'.symm.trans hparent)
      have hsame' : p' = p := Option.some.inj (hp'.symm.trans hp)
      exact ⟨a, ha, hparent, hsame ▸ hsame' ▸ ⟨hnode, habove⟩⟩

/-- Where the grown subtree repeats no identity, the subtree repeats none. -/
theorem distinctIds (h : c.GrowsTo d) (distinct : d.DistinctIds) : c.DistinctIds := by
  obtain ⟨ds, hds, hsub⟩ := List.sublistForall₂_iff.mp h.subtree
  have hids : c.subtree.map id = ds.map id := map_eq_of_forall₂ hds fun _ _ hef => hef.id_eq
  rw [DistinctIds, hids]
  exact (hsub.map id).nodup distinct

end GrowsTo

end Cursor

end CodeMetrics
