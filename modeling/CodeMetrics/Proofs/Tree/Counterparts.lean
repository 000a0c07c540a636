import CodeMetrics.Tree.Cursor
import Mathlib.Data.List.Forall2

/-!
# Lists with counterparts

Two versions of a tree are compared list by list: elements of one list have
counterparts in the other, in the same order.

* `List.Forall₂` — all elements of both lists are counterparts, so what is
  found in one by the same test is found in the other
  (`head?_cases_of_forall₂`, `Cursor.parent?_cases_of_forall₂`);
* `List.SublistForall₂` — the second list may hold more, so no fewer of its
  elements count (`countP_le_of_sublistForall₂`);
* `Thinned` — the first list may hold more, and what it may be is said.
-/

namespace CodeMetrics

section

variable {α β : Type _} {R : α → β → Prop} {xs : List α} {ys : List β}

/-! ## Lists with all counterparts -/

theorem map_eq_of_forall₂ {γ : Type _} {f : α → γ} {g : β → γ} (h : List.Forall₂ R xs ys)
    (hfg : ∀ x y, R x y → f x = g y) : xs.map f = ys.map g := by
  induction h with
  | nil => rfl
  | cons hxy _ ih => rw [List.map_cons, List.map_cons, hfg _ _ hxy, ih]

theorem head?_cases_of_forall₂ (h : List.Forall₂ R xs ys) :
    (xs.head? = none ∧ ys.head? = none) ∨
      ∃ x y, xs.head? = some x ∧ ys.head? = some y ∧ R x y := by
  cases h with
  | nil => exact .inl ⟨rfl, rfl⟩
  | cons hxy _ => exact .inr ⟨_, _, rfl, rfl, hxy⟩

theorem getElem?_of_forall₂ {i : Nat} {x : α} (h : List.Forall₂ R xs ys) (hx : xs[i]? = some x) :
    ∃ y, ys[i]? = some y ∧ R x y := by
  induction h generalizing i with
  | nil => cases hx
  | @cons x' y' xs ys hxy _ ih =>
    cases i with
    | zero =>
      rw [List.getElem?_cons_zero, Option.some.injEq] at hx
      exact ⟨y', List.getElem?_cons_zero, hx ▸ hxy⟩
    | succ i => exact ih hx

/-! ## Lists with further elements -/

theorem sublistForall₂_of_forall₂ (h : List.Forall₂ R xs ys) : List.SublistForall₂ R xs ys :=
  List.sublistForall₂_iff.mpr ⟨ys, h, List.Sublist.refl ys⟩

theorem sublistForall₂_append {xs' : List α} {ys' : List β} (h : List.SublistForall₂ R xs ys)
    (h' : List.SublistForall₂ R xs' ys') : List.SublistForall₂ R (xs ++ xs') (ys ++ ys') := by
  obtain ⟨zs, hzs, hsub⟩ := List.sublistForall₂_iff.mp h
  obtain ⟨zs', hzs', hsub'⟩ := List.sublistForall₂_iff.mp h'
  exact List.sublistForall₂_iff.mpr ⟨zs ++ zs', List.rel_append hzs hzs', hsub.append hsub'⟩

theorem sublistForall₂_append_right (h : List.SublistForall₂ R xs ys) (zs : List β) :
    List.SublistForall₂ R xs (ys ++ zs) := by
  have happend : List.SublistForall₂ R (xs ++ []) (ys ++ zs) := sublistForall₂_append h .nil
  rwa [List.append_nil] at happend

theorem sublistForall₂_flatMap {γ δ : Type _} {S : γ → δ → Prop} {f : α → List γ} {g : β → List δ}
    (h : List.Forall₂ R xs ys)
    (hfg : ∀ x ∈ xs, ∀ y, R x y → List.SublistForall₂ S (f x) (g y)) :
    List.SublistForall₂ S (xs.flatMap f) (ys.flatMap g) := by
  induction h with
  | nil => exact .nil
  | @cons x y xs ys hxy _ ih =>
    rw [List.flatMap_cons, List.flatMap_cons]
    exact sublistForall₂_append (hfg x List.mem_cons_self y hxy)
      (ih fun x' hx' => hfg x' (List.mem_cons_of_mem x hx'))

theorem exists_mem_of_sublistForall₂ {x : α} (h : List.SublistForall₂ R xs ys) (hx : x ∈ xs) :
    ∃ y ∈ ys, R x y := by
  induction h with
  | nil => exact absurd hx List.not_mem_nil
  | cons hxy _ ih =>
    rcases List.mem_cons.mp hx with rfl | hrest
    · exact ⟨_, List.mem_cons_self, hxy⟩
    · obtain ⟨y, hy, hxy⟩ := ih hrest
      exact ⟨y, List.mem_cons_of_mem _ hy, hxy⟩
  | cons_right _ ih =>
    obtain ⟨y, hy, hxy⟩ := ih hx
    exact ⟨y, List.mem_cons_of_mem _ hy, hxy⟩

/-- If the counterpart of what counts also counts, no fewer elements of the second list count. -/
theorem countP_le_of_sublistForall₂ {p : α → Bool} {q : β → Bool}
    (h : List.SublistForall₂ R xs ys) (hpq : ∀ x ∈ xs, ∀ y ∈ ys, R x y → p x → q y) :
    xs.countP p ≤ ys.countP q := by
  induction h with
  | nil => exact Nat.zero_le _
  | @cons x y xs ys hxy _ ih =>
    have hrest : xs.countP p ≤ ys.countP q :=
      ih fun x' hx' y' hy' => hpq x' (List.mem_cons_of_mem x hx') y' (List.mem_cons_of_mem y hy')
    by_cases hp : p x
    · have hq : q y := hpq x List.mem_cons_self y List.mem_cons_self hxy hp
      rw [List.countP_cons_of_pos hp, List.countP_cons_of_pos hq]
      omega
    · rw [List.countP_cons_of_neg hp, List.countP_cons]
      omega
  | @cons_right y xs ys _ ih =>
    have hrest : xs.countP p ≤ ys.countP q :=
      ih fun x' hx' y' hy' => hpq x' hx' y' (List.mem_cons_of_mem y hy')
    rw [List.countP_cons]
    omega

end

/-! ## Lists with elements left out -/

/-- The second list is the first with some elements left out, each of which is `gone`, and every
other element replaced by one that is `kept` for it. -/
inductive Thinned {α β : Type _} (gone : α → Prop) (kept : α → β → Prop) :
    List α → List β → Prop
  | nil : Thinned gone kept [] []
  | drop {x : α} {xs : List α} {ys : List β} :
      gone x → Thinned gone kept xs ys → Thinned gone kept (x :: xs) ys
  | keep {x : α} {y : β} {xs : List α} {ys : List β} :
      kept x y → Thinned gone kept xs ys → Thinned gone kept (x :: xs) (y :: ys)

namespace Thinned

variable {α β : Type _} {gone : α → Prop} {kept : α → β → Prop} {xs : List α} {ys : List β}

theorem append {xs' : List α} {ys' : List β} (h : Thinned gone kept xs ys)
    (h' : Thinned gone kept xs' ys') : Thinned gone kept (xs ++ xs') (ys ++ ys') := by
  induction h with
  | nil => exact h'
  | drop hx _ ih => exact .drop hx ih
  | keep hxy _ ih => exact .keep hxy ih

theorem map {α' β' : Type _} {gone' : α' → Prop} {kept' : α' → β' → Prop} {f : α → α'}
    {g : β → β'} (h : Thinned gone kept xs ys) (hgone : ∀ x, gone x → gone' (f x))
    (hkept : ∀ x y, kept x y → kept' (f x) (g y)) :
    Thinned gone' kept' (xs.map f) (ys.map g) := by
  induction h with
  | nil => exact .nil
  | drop hx _ ih => exact .drop (hgone _ hx) ih
  | keep hxy _ ih => exact .keep (hkept _ _ hxy) ih

/-- Some elements of both lists picked out leave them as they were to each other. -/
theorem pick (h : Thinned gone kept xs ys) {p : α → Bool} {q : β → Bool}
    (hkept : ∀ x y, kept x y → p x = q y) : Thinned gone kept (xs.filter p) (ys.filter q) := by
  induction h with
  | nil => exact .nil
  | @drop x xs ys hx _ ih =>
    rw [List.filter_cons]
    split
    · exact .drop hx ih
    · exact ih
  | @keep x y xs ys hxy _ ih =>
    rw [List.filter_cons, List.filter_cons, ← hkept x y hxy]
    split
    · exact .keep hxy ih
    · exact ih

/-- A thinned list without elements left out has a counterpart for each. -/
theorem forall₂ (h : Thinned gone kept xs ys) (hgone : ∀ x ∈ xs, ¬ gone x) :
    List.Forall₂ kept xs ys := by
  induction h with
  | nil => exact .nil
  | drop hx _ _ => exact absurd hx (hgone _ List.mem_cons_self)
  | keep hxy _ ih => exact .cons hxy (ih fun x hx => hgone x (List.mem_cons_of_mem _ hx))

/-- Among elements that are never left out, a thinned list has a counterpart for each. -/
theorem filter (h : Thinned gone kept xs ys) {p : α → Bool} {q : β → Bool}
    (hgone : ∀ x, gone x → p x = false) (hkept : ∀ x y, kept x y → p x = q y) :
    List.Forall₂ kept (xs.filter p) (ys.filter q) := by
  refine (h.pick hkept).forall₂ ?_
  intro x hx hgoneX
  have hp := (List.mem_filter.mp hx).2
  rw [hgone x hgoneX] at hp
  cases hp

theorem any_eq (h : Thinned gone kept xs ys) {p : α → Bool} {q : β → Bool}
    (hgone : ∀ x, gone x → p x = false) (hkept : ∀ x y, kept x y → p x = q y) :
    xs.any p = ys.any q := by
  induction h with
  | nil => rfl
  | drop hx _ ih => rw [List.any_cons, hgone _ hx, Bool.false_or, ih]
  | keep hxy _ ih => rw [List.any_cons, List.any_cons, hkept _ _ hxy, ih]

/-- Read the other way round, what is left has counterparts in the list it was taken from. -/
theorem sublistForall₂ (h : Thinned gone kept xs ys) :
    List.SublistForall₂ (fun y x => kept x y) ys xs := by
  induction h with
  | nil => exact .nil
  | drop _ _ ih => exact .cons_right ih
  | keep hxy _ ih => exact .cons hxy ih

end Thinned

/-! ## Parents -/

/-- Where the paths upwards are counterparts, so are the parents. -/
theorem Cursor.parent?_cases_of_forall₂ {R : Node → Node → Prop} {c d : Cursor}
    (h : List.Forall₂ R c.above d.above) :
    (c.parent? = none ∧ d.parent? = none) ∨
      ∃ p q, c.parent? = some p ∧ d.parent? = some q ∧
        R p.node q.node ∧ List.Forall₂ R p.above q.above := by
  obtain ⟨n, above⟩ := c
  obtain ⟨m, above'⟩ := d
  cases h with
  | nil => exact .inl ⟨rfl, rfl⟩
  | cons hparent hrest => exact .inr ⟨_, _, rfl, rfl, hparent, hrest⟩

end CodeMetrics
