import CodeMetrics.Tree.Cursor
import Std.Data.HashMap

/-!
# Parent links

A walk leaves behind a table that says, for every node it reached, through
which node it was reached.  Visitors may consult the table while the walk is
still filling it: a node's link is written before the node is visited.

* `Parents` — links from a node's identity to the cursor it was reached through;
* `Parents.ancestors` — the links followed upwards, nearest first;
* `Walk.step?` — one turn of a walk: a visit, and the children pushed on the stack;
* `Cursor.walk` — a pre-order walk that fills a table and carries a visitor's state.
-/

namespace CodeMetrics

/-- Links from nodes, by identity, to the nodes they were reached through. -/
structure Parents where
  links : Std.HashMap Nat Cursor := {}

namespace Parents

/-- The table without links. -/
def empty : Parents := {}

/-- Writes the link from `child` to `parent`, in place of any earlier one. -/
def record (t : Parents) (child parent : Cursor) : Parents :=
  ⟨t.links.insert child.id parent⟩

/-- Writes the link of every child of `c`, the last child first. -/
def recordChildren (t : Parents) (c : Cursor) : Parents :=
  c.children.foldr (fun child t => t.record child c) t

/-- The node through which `c` was reached. -/
def parentOf? (t : Parents) (c : Cursor) : Option Cursor := t.links[c.id]?

/-- Whether the table holds a link from `c`. -/
def contains (t : Parents) (c : Cursor) : Bool := t.links.contains c.id

/-- The number of links. -/
def size (t : Parents) : Nat := t.links.size

/-- Follows at most `steps` links upwards. -/
def climb (t : Parents) : Nat → Cursor → List Cursor
  | 0, _ => []
  | steps + 1, c =>
      match t.parentOf? c with
      | none => []
      | some p => p :: t.climb steps p

/-- The links followed upwards from `c`, nearest first.  Links that never return to a node are
followed to their end, since then each step uses up a link of the table. -/
def ancestors (t : Parents) (c : Cursor) : List Cursor := t.climb t.size c

@[simp] theorem parentOf?_record (t : Parents) (child parent c : Cursor) :
    (t.record child parent).parentOf? c =
      if child.id = c.id then some parent else t.parentOf? c := by
  simp [parentOf?, record, Std.HashMap.getElem?_insert]

end Parents

/-! ## The walk -/

/-- A walk under way: the nodes still to be visited, the next one first, with the links written so
far and what the visitor has made of the nodes before. -/
structure Walk (σ : Type _) where
  stack : List Cursor
  parents : Parents
  state : σ

namespace Walk

variable {σ : Type _}

/-- Links `child` to `parent` and puts it on top of the stack. -/
def push (parent : Cursor) (w : Walk σ) (child : Cursor) : Walk σ :=
  { w with stack := child :: w.stack, parents := w.parents.record child parent }

/-- One turn of the walk: the top of the stack is taken off and visited, and its children are
pushed, the last one first.  An empty stack leaves no turn to take. -/
def step? (visit : Parents → σ → Cursor → σ) (w : Walk σ) : Option (Walk σ) :=
  match w.stack with
  | [] => none
  | c :: rest =>
      let visited : Walk σ := ⟨rest, w.parents, visit w.parents w.state c⟩
      some (c.children.reverse.foldl (push c) visited)

theorem foldl_push_reverse (parent : Cursor) (cs : List Cursor) (w : Walk σ) :
    cs.reverse.foldl (push parent) w =
      ⟨cs ++ w.stack, cs.foldr (fun child t => t.record child parent) w.parents, w.state⟩ := by
  induction cs with
  | nil => rfl
  | cons c rest ih => simp [List.foldl_append, ih, push]

/-- Pushed last one first, the children come to stand in their own order. -/
theorem step?_cons (visit : Parents → σ → Cursor → σ) (c : Cursor) (rest : List Cursor)
    (t : Parents) (s : σ) :
    step? visit ⟨c :: rest, t, s⟩ =
      some ⟨c.children ++ rest, t.recordChildren c, visit t s c⟩ := by
  simp only [step?, foldl_push_reverse, Parents.recordChildren]

/-- A turn takes one node off what is pending. -/
theorem pending_step? {visit : Parents → σ → Cursor → σ} {w next : Walk σ}
    (h : w.step? visit = some next) :
    Cursor.pending next.stack + 1 = Cursor.pending w.stack := by
  obtain ⟨stack, t, s⟩ := w
  cases stack with
  | nil => simp [step?] at h
  | cons c rest =>
      rw [step?_cons, Option.some.injEq] at h
      subst h
      have := Cursor.pending_children c
      simp only [Cursor.pending_append, Cursor.pending_cons]
      omega

/-- Takes turns until none is left. -/
def run (visit : Parents → σ → Cursor → σ) (w : Walk σ) : Walk σ :=
  match _h : w.step? visit with
  | none => w
  | some next => run visit next
termination_by Cursor.pending w.stack
decreasing_by
  have := pending_step? _h
  omega

end Walk

/-- Visits the subtree in pre-order.  The visitor sees the links as they stand when it comes to a
node; the links of the node's children are written after the visit. -/
def Cursor.walk {σ : Type _} (visit : Parents → σ → Cursor → σ) (c : Cursor) (t : Parents)
    (s : σ) : Parents × σ :=
  let done := Walk.run visit ⟨[c], t, s⟩
  (done.parents, done.state)

end CodeMetrics
