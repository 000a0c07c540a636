import CodeMetrics.Proofs.Tree.Subtree
import CodeMetrics.Tree.Kind

/-!
# Counts and maxima over a subtree

The measures count nodes by a fold over an explicit stack.  Here the folds
become operations on lists of nodes in pre-order:

* `peak` — the largest weight among the nodes that satisfy a condition, which
  grows with the nodes (`peak_le_peak`) and is the weight of one of them
  (`exists_eq_peak`);
* `Cursor.count_eq_fun`, `Cursor.maxOver_eq_peak` — the folds as operations on
  the subtree.
-/

namespace CodeMetrics

/-- The largest weight among the nodes of a list that satisfy `p`, and zero if none does. -/
def peak (p : Cursor → Bool) (weight : Cursor → Nat) (cs : List Cursor) : Nat :=
  ((cs.filter p).map weight).max?.getD 0

@[simp] theorem peak_nil (p : Cursor → Bool) (weight : Cursor → Nat) : peak p weight [] = 0 := rfl

theorem peak_cons (p : Cursor → Bool) (weight : Cursor → Nat) (c : Cursor) (cs : List Cursor) :
    peak p weight (c :: cs) =
      if p c then max (weight c) (peak p weight cs) else peak p weight cs := by
  by_cases h : p c
  · rw [if_pos h, peak, List.filter_cons_of_pos h, List.map_cons, List.max?_cons, Option.getD_some,
      peak]
    cases ((cs.filter p).map weight).max? with
    | none => exact (Nat.max_zero _).symm
    | some m => rfl
  · rw [if_neg h, peak, List.filter_cons_of_neg h, peak]

/-- A peak depends on the weights of the nodes that count. -/
theorem peak_congr {p : Cursor → Bool} {v w : Cursor → Nat} {cs : List Cursor}
    (h : ∀ c ∈ cs, p c → v c = w c) : peak p v cs = peak p w cs := by
  have hmap : (cs.filter p).map v = (cs.filter p).map w := by
    refine List.map_congr_left ?_
    intro c hc
    obtain ⟨hmem, hp⟩ := List.mem_filter.mp hc
    exact h c hmem hp
  rw [peak, peak, hmap]

theorem le_peak {p : Cursor → Bool} {weight : Cursor → Nat} {c : Cursor} {cs : List Cursor}
    (hc : c ∈ cs) (hp : p c) : weight c ≤ peak p weight cs :=
  List.le_max?_getD_of_mem (List.mem_map_of_mem (List.mem_filter.mpr ⟨hc, hp⟩))

theorem peak_le {p : Cursor → Bool} {weight : Cursor → Nat} {cs : List Cursor} {m : Nat}
    (h : ∀ c ∈ cs, p c → weight c ≤ m) : peak p weight cs ≤ m := by
  induction cs with
  | nil => exact Nat.zero_le m
  | cons c rest ih =>
    have hrest := ih (fun d hd => h d (List.mem_cons_of_mem c hd))
    rw [peak_cons]
    split
    · rename_i hp
      exact Nat.max_le.mpr ⟨h c List.mem_cons_self hp, hrest⟩
    · exact hrest

/-- A peak above zero is the weight of a node that counts. -/
theorem exists_eq_peak {p : Cursor → Bool} {weight : Cursor → Nat} {cs : List Cursor}
    (h : 0 < peak p weight cs) : ∃ c ∈ cs, p c ∧ weight c = peak p weight cs := by
  cases hmax : ((cs.filter p).map weight).max? with
  | none =>
    rw [peak, hmax] at h
    exact absurd h (Nat.lt_irrefl 0)
  | some m =>
    obtain ⟨c, hc, hweight⟩ := List.mem_map.mp (List.max?_mem hmax)
    obtain ⟨hmem, hp⟩ := List.mem_filter.mp hc
    exact ⟨c, hmem, hp, by rw [hweight, peak, hmax, Option.getD_some]⟩

/-- Where every node that counts weighs something, one peak lies below another exactly if some node
of the second list outweighs all of the first. -/
theorem peak_lt_peak_iff {p : Cursor → Bool} {weight : Cursor → Nat} {cs ds : List Cursor}
    (pos : ∀ d, p d → 0 < weight d) :
    peak p weight cs < peak p weight ds ↔
      ∃ d ∈ ds, p d ∧ ∀ c ∈ cs, p c → weight c < weight d := by
  constructor
  · intro hlt
    obtain ⟨d, hd, hp, hweight⟩ := exists_eq_peak (Nat.zero_lt_of_lt hlt)
    refine ⟨d, hd, hp, ?_⟩
    intro c hc hpc
    have hle : weight c ≤ peak p weight cs := le_peak hc hpc
    omega
  · rintro ⟨d, hd, hp, hall⟩
    have hbelow : peak p weight cs ≤ weight d - 1 :=
      peak_le fun c hc hpc => Nat.le_sub_one_of_lt (hall c hc hpc)
    have hpos : 0 < weight d := pos d hp
    have hle : weight d ≤ peak p weight ds := le_peak hd hp
    omega

/-- Among more nodes the peak is no lower. -/
theorem peak_le_peak {p : Cursor → Bool} {weight : Cursor → Nat} {cs ds : List Cursor}
    (h : cs ⊆ ds) : peak p weight cs ≤ peak p weight ds :=
  peak_le (fun _ hc hp => le_peak (h hc) hp)

/-- One more weight on top of a running maximum. -/
theorem max_peak_cons (m : Nat) (p : Cursor → Bool) (weight : Cursor → Nat) (c : Cursor)
    (cs : List Cursor) :
    max (if p c then max m (weight c) else m) (peak p weight cs) =
      max m (peak p weight (c :: cs)) := by
  rw [peak_cons]
  by_cases h : p c
  · rw [if_pos h, if_pos h, Nat.max_assoc]
  · rw [if_neg h, if_neg h]

/-- Moving the nodes of a list elsewhere changes no peak, if it changes neither which of them count
nor how much. -/
theorem peak_map {p : Cursor → Bool} {weight : Cursor → Nat} {move : Cursor → Cursor}
    (h : ∀ c, p (move c) = p c) (hweight : ∀ c, weight (move c) = weight c) (cs : List Cursor) :
    peak p weight (cs.map move) = peak p weight cs := by
  induction cs with
  | nil => rfl
  | cons c rest ih => rw [List.map_cons, peak_cons, peak_cons, ih, h, hweight]

namespace Cursor

/-- Whether the node is a branch. -/
def isConditional (c : Cursor) : Bool := c.kind == .conditional

/-- Whether the node returns from a function. -/
def isReturn (c : Cursor) : Bool := c.kind == .returnStatement

/-- Whether the node declares a function. -/
def isDeclaration (c : Cursor) : Bool := c.kind == .functionDeclaration

/-- A count, split by a second condition. -/
theorem countP_eq_add (p q : Cursor → Bool) (cs : List Cursor) :
    cs.countP p = cs.countP (fun c => p c && q c) + cs.countP (fun c => p c && !q c) := by
  rw [List.countP_eq_countP_filter_add cs p q, List.countP_filter, List.countP_filter]

theorem count_eq_fun (p : Cursor → Bool) : count p = fun c => c.subtree.countP p :=
  funext (count_eq_countP p)

theorem maxOver_eq_peak (p : Cursor → Bool) (weight : Cursor → Nat) (c : Cursor) :
    c.maxOver p weight = peak p weight c.subtree := by
  have run : ∀ (cs : List Cursor) (m : Nat),
      cs.foldl (fun m d => if p d then max m (weight d) else m) m = max m (peak p weight cs) := by
    intro cs
    induction cs with
    | nil =>
      intro m
      rw [List.foldl_nil, peak_nil, Nat.max_zero]
    | cons d rest ih =>
      intro m
      rw [List.foldl_cons, ih, max_peak_cons]
  rw [maxOver, fold_eq_foldl, run, Nat.zero_max]

end Cursor

end CodeMetrics
