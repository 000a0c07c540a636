import CodeMetrics.Proofs.Tree.Counterparts
import CodeMetrics.Proofs.Tree.Kinds

/-!
# Trees without some of their comments

A comment is a named leaf that its parent holds under no field.  Taking some of
the comments out of a tree leaves all other nodes with the labels they had;
their identities may change.

* `Node.StripsTo`, `Cursor.StripsTo` — what is left of a tree, and of a node in
  it, when some comments are taken out;
* **children** — looking for a child under a field does not find comments
  (`Node.StripsTo.childUnder?_cases`);
* **kinds** — a node keeps its kind (`Cursor.StripsTo.kind_eq`);
* **subtrees** — the pre-order is thinned by the comments taken out
  (`Cursor.StripsTo.subtree`), so counts and maxima of what comments are not
  stay the same (`Cursor.CommentBlind.countP_subtree`,
  `Cursor.CommentBlind.peak_subtree`).
-/

namespace CodeMetrics

/-! ## Comments -/

namespace Node

/-- A comment: a named leaf of that type, held under no field. -/
structure IsComment (n : Node) : Prop where
  type_eq : n.type = "comment"
  named : n.label.named = true
  field_eq : n.label.field? = none
  leaf : n.children = []

/-- What is left of a tree when some of the comments below its root are taken out.  The other nodes
keep their labels and their order; their identities may change. -/
inductive StripsTo : Node → Node → Prop
  | mk {i j : Nat} {l : Label} {cs ds : List Node} :
      Thinned IsComment StripsTo cs ds → StripsTo (.mk i l cs) (.mk j l ds)

namespace StripsTo

variable {t u : Node}

theorem label_eq (h : t.StripsTo u) : t.label = u.label := by
  cases h
  rfl

theorem type_eq (h : t.StripsTo u) : t.type = u.type := congrArg Label.type h.label_eq

theorem line_eq (h : t.StripsTo u) : t.line = u.line :=
  congrArg (fun l => l.row + 1) h.label_eq

theorem children (h : t.StripsTo u) : Thinned IsComment StripsTo t.children u.children := by
  cases h with
  | mk h => exact h

/-- A comment is held under no field, so a search by field passes it by. -/
theorem childUnder?_cases (h : t.StripsTo u) (name : String) :
    (t.childUnder? name = none ∧ u.childUnder? name = none) ∨
      ∃ c d, t.childUnder? name = some c ∧ u.childUnder? name = some d ∧ c.StripsTo d := by
  have hfilter := h.children.filter (p := fun c => c.label.field? == some name)
    (q := fun d => d.label.field? == some name)
    (fun c hc => by simp [hc.field_eq]) (fun c d hcd => by rw [hcd.label_eq])
  unfold childUnder?
  rw [← List.head?_filter, ← List.head?_filter]
  exact head?_cases_of_forall₂ hfilter

theorem label_childUnder? (h : t.StripsTo u) (name : String) :
    (t.childUnder? name).map label = (u.childUnder? name).map label := by
  rcases h.childUnder?_cases name with ⟨ht, hu⟩ | ⟨c, d, ht, hu, hcd⟩
  · rw [ht, hu]
  · rw [ht, hu, Option.map_some, Option.map_some, hcd.label_eq]

theorem joinsConditions_eq (h : t.StripsTo u) : t.joinsConditions = u.joinsConditions := by
  rw [joinsConditions_eq_any, joinsConditions_eq_any, h.label_childUnder?]

theorem exportsDefault_eq (h : t.StripsTo u) : t.exportsDefault = u.exportsDefault := by
  unfold exportsDefault
  rw [h.type_eq, h.children.any_eq (fun c hc => by rw [hc.type_eq]; rfl)
    (fun c d hcd => by rw [hcd.type_eq])]

end StripsTo

end Node

/-! ## Nodes of a tree without some of its comments -/

namespace Cursor

/-- A node of a tree against its counterpart in the tree without some comments. -/
structure StripsTo (c d : Cursor) : Prop where
  node : c.node.StripsTo d.node
  above : List.Forall₂ Node.StripsTo c.above d.above

/-- The root of a tree is never taken out. -/
theorem stripsTo_root {t u : Node} (h : t.StripsTo u) : (root t).StripsTo (root u) :=
  ⟨h, .nil⟩

theorem subtree_of_isComment {c : Cursor} (h : c.node.IsComment) : c.subtree = [c] := by
  rw [subtree_eq, children, h.leaf]
  rfl

namespace StripsTo

variable {c d : Cursor}

theorem isDefaultExport_eq (h : c.StripsTo d) : c.isDefaultExport = d.isDefaultExport := by
  obtain ⟨n, above⟩ := c
  obtain ⟨m, above'⟩ := d
  cases h.above with
  | nil => rfl
  | cons hparent _ => exact hparent.exportsDefault_eq

/-- Taking comments out leaves every other node its kind. -/
theorem kind_eq (h : c.StripsTo d) : c.kind = d.kind := by
  unfold kind
  rw [h.node.label_eq, h.node.type_eq, h.node.joinsConditions_eq, h.isDefaultExport_eq]

theorem down {n m : Node} (h : c.StripsTo d) (hnm : n.StripsTo m) :
    (c.down n).StripsTo (d.down m) :=
  ⟨hnm, .cons h.node h.above⟩

theorem children (h : c.StripsTo d) :
    Thinned (fun e => e.node.IsComment) StripsTo c.children d.children :=
  h.node.children.map (fun _ hx => hx) (fun _ _ hxy => h.down hxy)

/-- The pre-order of a tree without some comments is that of the tree, thinned. -/
theorem subtree (h : c.StripsTo d) :
    Thinned (fun e => e.node.IsComment) StripsTo c.subtree d.subtree := by
  induction c using induction_children generalizing d with
  | step c ih =>
    rw [subtree_eq c, subtree_eq d]
    refine .keep h ?_
    have hchildren := h.children
    revert ih hchildren
    generalize c.children = cs
    generalize d.children = ds
    intro ih hchildren
    induction hchildren with
    | nil => exact .nil
    | drop hx _ ihds =>
      -- a comment taken out has nothing below it
      rw [List.flatMap_cons, subtree_of_isComment hx]
      exact .drop hx (ihds fun e he => ih e (List.mem_cons_of_mem _ he))
    | keep hxy _ ihds =>
      rw [List.flatMap_cons, List.flatMap_cons]
      exact (ih _ List.mem_cons_self hxy).append
        (ihds fun e he => ih e (List.mem_cons_of_mem _ he))

end StripsTo

/-! ## Counts and maxima -/

/-- A property that no comment has and that taking comments out leaves alone. -/
structure CommentBlind (p : Cursor → Bool) : Prop where
  comment : ∀ c, c.node.IsComment → p c = false
  stripped : ∀ c d, c.StripsTo d → p c = p d

/-- A property of kinds that `other` has not. -/
theorem commentBlind_kind (p : Kind → Bool) (h : p .other = false) :
    CommentBlind (fun c => p c.kind) where
  comment c hc := by rw [kind_of_type_comment hc.type_eq, h]
  stripped c d hcd := by rw [hcd.kind_eq]

theorem commentBlind_isDecision : CommentBlind isDecision := commentBlind_kind Kind.isDecision rfl

theorem commentBlind_isLogical : CommentBlind isLogical := commentBlind_kind (· == .logical) rfl

theorem commentBlind_isMemberAccess : CommentBlind isMemberAccess :=
  commentBlind_kind (· == .memberAccess) rfl

theorem commentBlind_isConditional : CommentBlind isConditional :=
  commentBlind_kind (· == .conditional) rfl

theorem commentBlind_isReturn : CommentBlind isReturn :=
  commentBlind_kind (· == .returnStatement) rfl

theorem commentBlind_isDeclaration : CommentBlind isDeclaration :=
  commentBlind_kind (· == .functionDeclaration) rfl

namespace CommentBlind

variable {p : Cursor → Bool} {c d : Cursor}

theorem filter_subtree (hp : CommentBlind p) (h : c.StripsTo d) :
    List.Forall₂ StripsTo (c.subtree.filter p) (d.subtree.filter p) :=
  h.subtree.filter hp.comment hp.stripped

theorem countP_subtree (hp : CommentBlind p) (h : c.StripsTo d) :
    c.subtree.countP p = d.subtree.countP p := by
  rw [List.countP_eq_length_filter, List.countP_eq_length_filter, (hp.filter_subtree h).length_eq]

theorem count_eq (hp : CommentBlind p) (h : c.StripsTo d) : c.count p = d.count p := by
  rw [count_eq_countP, count_eq_countP, hp.countP_subtree h]

theorem peak_subtree (hp : CommentBlind p) {weight : Cursor → Nat}
    (hweight : ∀ c d, c.StripsTo d → weight c = weight d) (h : c.StripsTo d) :
    peak p weight c.subtree = peak p weight d.subtree := by
  rw [peak, peak, map_eq_of_forall₂ (hp.filter_subtree h) hweight]

end CommentBlind

end Cursor

end CodeMetrics
