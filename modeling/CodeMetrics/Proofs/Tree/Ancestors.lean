import CodeMetrics.Proofs.Tree.Visits
import Mathlib.Data.List.DropRight

/-!
# Ancestors by the links of a table

Following links upwards has no bound of its own: on a table whose links run in
a circle it never ends.  `Parents.Climbs` says that it ends and what it has met
by then.

* **bound** — a climb that ends uses each identity once, so the number of links
  bounds it and `Parents.ancestors` is all of it (`Climbs.ancestors_eq`);
* **tables of walks** — several walks from nodes of one tree leave the links of
  whatever lies below one of the starts, in any order and however often they
  are made (`DistinctIds.parentOf?_linkAll_starts`);
* **end of the climb** — on such a table it leads up the lineage as far as the
  topmost start (`DistinctIds.climbs_lineage`).
-/

namespace CodeMetrics

namespace Parents

/-! ## Climbs that end -/

/-- Following the links from a node comes to an end, and the list holds the nodes that it leads
to. -/
inductive Climbs (t : Parents) : Cursor → List Cursor → Prop
  /-- There is no link to follow. -/
  | stop {c : Cursor} : t.parentOf? c = none → Climbs t c []
  /-- The link leads to `p`, and from there the climb goes on. -/
  | up {c p : Cursor} {cs : List Cursor} : t.parentOf? c = some p → Climbs t p cs →
      Climbs t c (p :: cs)

namespace Climbs

variable {t : Parents}

/-- A table goes by identities, so climbs from one identity are one climb. -/
theorem unique {c d : Cursor} {cs ds : List Cursor} (hc : t.Climbs c cs) (hd : t.Climbs d ds)
    (h : c.id = d.id) : cs = ds := by
  induction hc generalizing d ds with
  | stop hnone =>
    cases hd with
    | stop _ => rfl
    | up hlink _ =>
      unfold parentOf? at hnone hlink
      rw [h, hlink] at hnone
      cases hnone
  | up hlink _ ih =>
    cases hd with
    | stop hnone =>
      unfold parentOf? at hnone hlink
      rw [h, hnone] at hlink
      cases hlink
    | up hlink' hrest =>
      unfold parentOf? at hlink hlink'
      rw [h, hlink', Option.some.injEq] at hlink
      subst hlink
      rw [ih hrest rfl]

/-- With steps enough, a bounded climb is the whole climb. -/
theorem climb_eq {c : Cursor} {cs : List Cursor} (h : t.Climbs c cs) {steps : Nat}
    (hsteps : cs.length ≤ steps) : t.climb steps c = cs := by
  induction h generalizing steps with
  | stop hnone =>
    cases steps with
    | zero => rfl
    | succ steps => simp only [climb, hnone]
  | up hlink _ ih =>
    cases steps with
    | zero => exact absurd hsteps (Nat.not_succ_le_zero _)
    | succ steps =>
      simp only [climb, hlink]
      rw [ih (Nat.le_of_succ_le_succ hsteps)]

/-- A climb starts from a new identity at every step: were one to come back, the climb from there
would have to be as long as it was the first time. -/
theorem exists_ids {c : Cursor} {cs : List Cursor} (h : t.Climbs c cs) :
    ∃ ids : List Nat, ids.length = cs.length ∧ ids.Nodup ∧
      ∀ i ∈ ids, i ∈ t.links ∧ ∃ e es, e.id = i ∧ t.Climbs e es ∧ es.length ≤ cs.length := by
  induction h with
  | stop _ => exact ⟨[], rfl, List.nodup_nil, fun i hi => absurd hi List.not_mem_nil⟩
  | @up c p cs hlink hrest ih =>
    obtain ⟨ids, hlen, hnodup, hids⟩ := ih
    have hwhole : t.Climbs c (p :: cs) := .up hlink hrest
    refine ⟨c.id :: ids, by rw [List.length_cons, List.length_cons, hlen], ?_, ?_⟩
    · refine List.nodup_cons.mpr ⟨?_, hnodup⟩
      intro hmem
      -- the climb met again at `c` is this one, yet no longer than the climb from `p`
      obtain ⟨_, e, es, he, hes, hle⟩ := hids c.id hmem
      have hsame : es = p :: cs := hes.unique hwhole he
      rw [hsame, List.length_cons] at hle
      omega
    · intro i hi
      rcases List.mem_cons.mp hi with rfl | hrest'
      · refine ⟨?_, c, p :: cs, rfl, hwhole, Nat.le_refl _⟩
        exact Std.HashMap.mem_iff_isSome_getElem?.mpr (Option.isSome_iff_exists.mpr ⟨p, hlink⟩)
      · obtain ⟨hlinked, e, es, he, hes, hle⟩ := hids i hrest'
        exact ⟨hlinked, e, es, he, hes, Nat.le_succ_of_le hle⟩

/-- A climb that ends takes at most as many steps as there are links. -/
theorem length_le_size {c : Cursor} {cs : List Cursor} (h : t.Climbs c cs) :
    cs.length ≤ t.size := by
  obtain ⟨ids, hlen, hnodup, hids⟩ := h.exists_ids
  rw [← hlen]
  exact Parents.length_le_size hnodup (fun i hi => (hids i hi).1)

/-- Wherever a climb ends, the ancestors are all of it. -/
theorem ancestors_eq {c : Cursor} {cs : List Cursor} (h : t.Climbs c cs) : t.ancestors c = cs :=
  h.climb_eq h.length_le_size

end Climbs

end Parents

/-! ## The end of a list that is dropped -/

theorem rdropWhile_cons {α : Type _} (p : α → Bool) (x : α) (xs : List α) :
    (x :: xs).rdropWhile p =
      if ∀ y ∈ x :: xs, p y then [] else x :: xs.rdropWhile p := by
  by_cases h : ∀ y ∈ x :: xs, p y
  · rw [if_pos h]
    exact List.rdropWhile_eq_nil_iff.mpr h
  · rw [if_neg h, List.rdropWhile, List.rdropWhile, List.reverse_cons, List.dropWhile_append]
    by_cases hxs : (xs.reverse.dropWhile p).isEmpty
    · -- all of `xs` is dropped, so it is `x` that stays
      have hall : ∀ y ∈ xs, p y := by
        intro y hy
        exact List.dropWhile_eq_nil_iff.mp (List.isEmpty_iff.mp hxs) y (List.mem_reverse.mpr hy)
      have hx : ¬ p x := by
        intro hx
        refine h ?_
        intro y hy
        rcases List.mem_cons.mp hy with rfl | hrest
        · exact hx
        · exact hall y hrest
      rw [if_pos hxs, List.isEmpty_iff.mp hxs, List.dropWhile_cons_of_neg hx]
      rfl
    · rw [if_neg hxs, List.reverse_append]
      rfl

namespace Cursor

/-! ## Tables of several walks -/

/-- Walks into one table, one after the other, each with a visitor of its own. -/
def walkEach {σ : Type _} (runs : List (Cursor × (Parents → σ → Cursor → σ))) (t : Parents)
    (s : σ) : Parents × σ :=
  runs.foldl (fun ts r => r.1.walk r.2 ts.1 ts.2) (t, s)

/-- What the visitors do leaves no trace in the table. -/
theorem walkEach_links {σ : Type _} (runs : List (Cursor × (Parents → σ → Cursor → σ)))
    (t : Parents) (s : σ) :
    (walkEach runs t s).1 = t.linkAll ((runs.map Prod.fst).flatMap subtree) := by
  induction runs generalizing t s with
  | nil => rfl
  | cons r rest ih =>
    show (walkEach rest (r.1.walk r.2 t s).1 (r.1.walk r.2 t s).2).1 = _
    rw [ih, walk_links, List.map_cons, List.flatMap_cons, Parents.linkAll_append]

/-- The table of walks from `starts` links an identity exactly when a node below one of them has it,
and then to the parent of that node. -/
theorem DistinctIds.parentOf?_linkAll_starts {r x p : Cursor} {starts : List Cursor}
    (distinct : r.DistinctIds) (hstarts : ∀ a ∈ starts, a ∈ r.subtree) :
    (Parents.empty.linkAll (starts.flatMap subtree)).parentOf? x = some p ↔
      ∃ a ∈ starts, ∃ y ∈ a.descendants, y.id = x.id ∧ y.parent? = some p := by
  have hnodes : ∀ q ∈ starts.flatMap subtree, q ∈ r.subtree := by
    intro q hq
    obtain ⟨a, ha, hqa⟩ := List.mem_flatMap.mp hq
    exact mem_subtree_trans (hstarts a ha) hqa
  -- a link to the parent is written for each node below a start
  have hlink : ∀ a ∈ starts, ∀ y ∈ a.descendants, y.id = x.id →
      (Parents.empty.linkAll (starts.flatMap subtree)).parentOf? x = y.parent? := by
    intro a ha y hy hid
    obtain ⟨q, hq, hyq⟩ := mem_descendants_iff_parent.mp hy
    have hqmem : q ∈ starts.flatMap subtree := List.mem_flatMap.mpr ⟨a, ha, hq⟩
    have hyr : y ∈ r.subtree := mem_subtree_trans (hnodes q hqmem) (child_mem_subtree hyq)
    rw [parent?_of_mem_children hyq]
    refine Parents.parentOf?_linkAll_of_mem hqmem (hid ▸ List.mem_map_of_mem hyq) ?_
    intro q' hq' hmem
    rw [← hid] at hmem
    exact eq_of_mem_children ((distinct.id_mem_children_iff (hnodes q' hq') hyr).mp hmem) hyq
  constructor
  · intro hsome
    by_cases hwritten : ∃ q ∈ starts.flatMap subtree, x.id ∈ q.children.map id
    · obtain ⟨q, hq, hmem⟩ := hwritten
      obtain ⟨y, hy, hid⟩ := List.mem_map.mp hmem
      obtain ⟨a, ha, hqa⟩ := List.mem_flatMap.mp hq
      have hya : y ∈ a.descendants := mem_descendants_iff_parent.mpr ⟨q, hqa, hy⟩
      exact ⟨a, ha, y, hya, hid, (hlink a ha y hya hid).symm.trans hsome⟩
    · have hnone := Parents.parentOf?_linkAll_of_not_mem (t := Parents.empty)
        (fun q hq hmem => hwritten ⟨q, hq, hmem⟩)
      rw [hnone, Parents.parentOf?_empty] at hsome
      cases hsome
  · rintro ⟨a, ha, y, hy, hid, hp⟩
    rw [hlink a ha y hy hid, hp]

/-- A node of the tree that lies below a start is linked to its parent. -/
theorem DistinctIds.parentOf?_linkAll_below {r x : Cursor} {starts : List Cursor}
    (distinct : r.DistinctIds) (hstarts : ∀ a ∈ starts, a ∈ r.subtree)
    (hx : ∃ a ∈ starts, x ∈ a.descendants) :
    ∃ p, x.parent? = some p ∧
      (Parents.empty.linkAll (starts.flatMap subtree)).parentOf? x = some p := by
  obtain ⟨a, ha, hxa⟩ := hx
  obtain ⟨p, hp⟩ := exists_parent?_of_mem_descendants hxa
  exact ⟨p, hp, (distinct.parentOf?_linkAll_starts hstarts).mpr ⟨a, ha, x, hxa, rfl, hp⟩⟩

/-- A node of the tree that lies below no start is not linked. -/
theorem DistinctIds.parentOf?_linkAll_not_below {r x : Cursor} {starts : List Cursor}
    (distinct : r.DistinctIds) (hstarts : ∀ a ∈ starts, a ∈ r.subtree) (hr : x ∈ r.subtree)
    (hx : ¬ ∃ a ∈ starts, x ∈ a.descendants) :
    (Parents.empty.linkAll (starts.flatMap subtree)).parentOf? x = none := by
  rw [Option.eq_none_iff_forall_ne_some]
  intro p hp
  obtain ⟨a, ha, y, hy, hid, _⟩ := (distinct.parentOf?_linkAll_starts hstarts).mp hp
  have hyr : y ∈ r.subtree :=
    mem_subtree_trans (hstarts a ha) (mem_subtree_of_mem_descendants hy)
  exact hx ⟨a, ha, distinct.eq_of_id_eq hyr hr hid ▸ hy⟩

/-- Which links there are depends on the set of the starts only. -/
theorem DistinctIds.parentOf?_linkAll_congr {r : Cursor} {starts others : List Cursor}
    (distinct : r.DistinctIds) (hstarts : ∀ a ∈ starts, a ∈ r.subtree)
    (hsame : ∀ a, a ∈ others ↔ a ∈ starts) (x : Cursor) :
    (Parents.empty.linkAll (others.flatMap subtree)).parentOf? x =
      (Parents.empty.linkAll (starts.flatMap subtree)).parentOf? x := by
  have hothers : ∀ a ∈ others, a ∈ r.subtree := fun a ha => hstarts a ((hsame a).mp ha)
  refine Option.ext ?_
  intro p
  rw [distinct.parentOf?_linkAll_starts hothers, distinct.parentOf?_linkAll_starts hstarts]
  refine exists_congr ?_
  intro a
  rw [hsame]

/-! ## Climbing to the topmost start -/

/-- A node lies below a start unless no start is in its lineage. -/
theorem not_forall_lineage_iff {r x : Cursor} {starts : List Cursor}
    (hstarts : ∀ a ∈ starts, a ∈ r.subtree) (hx : x ∈ r.subtree) :
    (¬ ∀ a ∈ x.lineage, decide (a ∉ starts) = true) ↔ ∃ a ∈ starts, x ∈ a.descendants := by
  simp only [decide_eq_true_iff, not_forall, not_not]
  constructor
  · rintro ⟨a, hax, ha⟩
    exact ⟨a, ha, (mem_descendants_iff_mem_lineage (hstarts a ha) hx).mpr hax⟩
  · rintro ⟨a, ha, hxa⟩
    exact ⟨a, mem_lineage_of_mem_descendants hxa, ha⟩

/-- By the links of walks from `starts` the climb from a node leads up its lineage and ends at the
topmost start. -/
theorem DistinctIds.climbs_lineage {t : Node} {x : Cursor} {starts : List Cursor}
    (distinct : (root t).DistinctIds) (hstarts : ∀ a ∈ starts, a ∈ (root t).subtree)
    (hx : x ∈ (root t).subtree) :
    (Parents.empty.linkAll (starts.flatMap subtree)).Climbs x
      (x.lineage.rdropWhile (· ∉ starts)) := by
  -- without a start above it a node has no link, whether it is the root or not
  have hstop : ∀ y ∈ (root t).subtree, (∀ a ∈ y.lineage, decide (a ∉ starts) = true) →
      (Parents.empty.linkAll (starts.flatMap subtree)).Climbs y
        (y.lineage.rdropWhile (· ∉ starts)) := by
    intro y hy hall
    rw [List.rdropWhile_eq_nil_iff.mpr hall]
    refine .stop (distinct.parentOf?_linkAll_not_below hstarts hy ?_)
    intro hbelow
    exact (not_forall_lineage_iff hstarts hy).mpr hbelow hall
  refine induction_subtree (motive := fun y =>
    (Parents.empty.linkAll (starts.flatMap subtree)).Climbs y
      (y.lineage.rdropWhile (· ∉ starts))) ?_ ?_ hx
  · refine hstop _ (self_mem_subtree _) ?_
    intro a ha
    exact absurd ha List.not_mem_nil
  · intro p hp ih e he
    have her : e ∈ (root t).subtree := mem_subtree_trans hp (child_mem_subtree he)
    by_cases hall : ∀ a ∈ e.lineage, decide (a ∉ starts) = true
    · exact hstop e her hall
    · obtain ⟨q, hq, hlink⟩ := distinct.parentOf?_linkAll_below hstarts
        ((not_forall_lineage_iff hstarts her).mp hall)
      rw [parent?_of_mem_children he, Option.some.injEq] at hq
      subst hq
      rw [lineage_of_mem_children he] at hall ⊢
      rw [rdropWhile_cons, if_neg hall]
      exact .up hlink ih

/-- Let walks from nodes of one tree with distinct identities fill a table that is empty at first.
What the table answers depends on the set of the starts alone, whatever the order of the walks and
their visitors.  A node of the tree is linked, to its parent, exactly when it lies below a start.
From every node of the tree the links lead to an end: up the lineage, nearest ancestor first, as far
as the topmost ancestor that is a start, and nowhere if none is. -/
theorem walkEach_ancestors {σ : Type _} (t : Node) (distinct : (root t).DistinctIds)
    (runs : List (Cursor × (Parents → σ → Cursor → σ)))
    (hruns : ∀ r ∈ runs, r.1 ∈ (root t).subtree) (s : σ) :
    let links := (walkEach runs Parents.empty s).1
    let starts := runs.map Prod.fst
    (∀ (others : List (Cursor × (Parents → σ → Cursor → σ))) (s' : σ),
      (∀ a, a ∈ others.map Prod.fst ↔ a ∈ starts) →
        (∀ x, (walkEach others Parents.empty s').1.parentOf? x = links.parentOf? x) ∧
        (walkEach others Parents.empty s').1.size = links.size) ∧
    (∀ n ∈ (root t).subtree,
      ((∃ a ∈ starts, n ∈ a.descendants) →
        ∃ p, n.parent? = some p ∧ links.parentOf? n = some p) ∧
      ((¬ ∃ a ∈ starts, n ∈ a.descendants) → links.parentOf? n = none)) ∧
    (∀ n ∈ (root t).subtree,
      links.Climbs n (n.lineage.rdropWhile (· ∉ starts)) ∧
        links.ancestors n = n.lineage.rdropWhile (· ∉ starts)) := by
  intro links starts
  have hlinks : links = Parents.empty.linkAll (starts.flatMap subtree) :=
    walkEach_links runs Parents.empty s
  have hstarts : ∀ a ∈ starts, a ∈ (root t).subtree := by
    intro a ha
    obtain ⟨r, hr, rfl⟩ := List.mem_map.mp ha
    exact hruns r hr
  rw [hlinks]
  refine ⟨?_, ?_, ?_⟩
  · intro others s' hsame
    rw [walkEach_links]
    have hanswers := distinct.parentOf?_linkAll_congr hstarts hsame
    exact ⟨hanswers, Parents.size_congr hanswers⟩
  · intro n hn
    exact ⟨distinct.parentOf?_linkAll_below hstarts,
      distinct.parentOf?_linkAll_not_below hstarts hn⟩
  · intro n hn
    have hclimbs := distinct.climbs_lineage hstarts hn
    exact ⟨hclimbs, hclimbs.ancestors_eq⟩

/-- Walks from the middle and then from above it: from the leaf the climb goes past the lower start
to the upper one, and not on to the root. -/
theorem walkEach_ancestors_twoStarts :
    let leaf : Node := .mk 3 { type := "identifier", row := 0 } []
    let lower : Node := .mk 2 { type := "member_expression", row := 0 } [leaf]
    let upper : Node := .mk 1 { type := "expression_statement", row := 0 } [lower]
    let t : Node := .mk 0 { type := "program", row := 0 } [upper]
    let a : Cursor := (root t).down upper
    let b : Cursor := a.down lower
    let count := fun (_ : Parents) (n : Nat) (_ : Cursor) => n + 1
    let links := (walkEach [(b, count), (a, count), (b, count)] Parents.empty 0).1
    (root t).DistinctIds ∧ (∀ r ∈ [(b, count), (a, count), (b, count)], r.1 ∈ (root t).subtree) ∧
      links.ancestors (b.down leaf) = [b, a] ∧ links.ancestors a = [] ∧
      links.parentOf? a = none ∧ links.parentOf? b = some a ∧
      (walkEach [(a, count), (b, count)] Parents.empty 0).1.size = links.size := by
  intro leaf lower upper t a b count links
  have hdistinct : (root t).DistinctIds := by decide
  have ha : a ∈ (root t).subtree := by decide
  have hb : b ∈ (root t).subtree := by decide
  have hruns : ∀ r ∈ [(b, count), (a, count), (b, count)], r.1 ∈ (root t).subtree := by
    intro r hr
    simp only [List.mem_cons, List.not_mem_nil, or_false] at hr
    rcases hr with rfl | rfl | rfl
    · exact hb
    · exact ha
    · exact hb
  obtain ⟨hset, hlinked, hclimb⟩ := walkEach_ancestors t hdistinct _ hruns 0
  refine ⟨hdistinct, hruns, ?_, ?_, ?_, ?_, ?_⟩
  · exact (hclimb (b.down leaf) (by decide)).2.trans (by decide)
  · exact (hclimb a ha).2.trans (by decide)
  · exact (hlinked a ha).2 (by decide)
  · obtain ⟨p, hp, hlink⟩ := (hlinked b hb).1 (by decide)
    exact hlink.trans hp.symm
  · refine (hset [(a, count), (b, count)] 0 ?_).2
    intro x
    simp only [List.map_cons, List.map_nil, List.mem_cons, List.not_mem_nil, or_false]
    tauto

end Cursor

end CodeMetrics
