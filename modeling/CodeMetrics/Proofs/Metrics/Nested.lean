import CodeMetrics.Proofs.Metrics.Function
import CodeMetrics.Proofs.Tree.Outermost

/-!
# Nested declarations

A declaration is measured over its whole subtree, and so is every declaration
inside it.  The outermost declarations inside cut the subtree into parts
(`Cursor.subtree_perm_outermost`), which ties the records to each other:

* **counts** — the count of a declaration is that of its own nodes plus the
  counts of the declarations inside (`decisions_eq`, `returns_eq`);
* **maxima** — a maximum over a subtree is no smaller than one over a part of
  it (`nesting_le`, `conditions_le`); member chains are looked for in bodies
  alone, and a body inside a body is part of it (`bodyChain_le`).
-/

namespace CodeMetrics.Cursor

/-- The declarations strictly inside a node that lie in no other declaration inside it. -/
def innerDeclarations (f : Cursor) : List Cursor := outermost isDeclaration f.descendants

/-- The nodes of a subtree that lie in no declaration strictly inside its root. -/
def ownNodes (f : Cursor) : List Cursor := outside f.innerDeclarations f.subtree

theorem subtree_subset_of_innerDeclaration {f g : Cursor} (hg : g ∈ f.innerDeclarations) :
    g.subtree ⊆ f.subtree :=
  (subtree_sublist (mem_subtree_of_mem_descendants (outermost_subset _ _ hg))).subset

/-! ## Counts -/

/-- A count over the subtree of a node, taken over its own nodes and over the declarations inside,
in whole numbers. -/
theorem countP_ownNodes (q : Cursor → Bool) (f : Cursor) :
    (f.subtree.countP q : Int) =
      f.ownNodes.countP q +
        (f.innerDeclarations.map (fun g => (g.subtree.countP q : Int))).sum := by
  have hsum : (((f.innerDeclarations.map (fun g => g.subtree.countP q)).sum : Nat) : Int) =
      (f.innerDeclarations.map (fun g => (g.subtree.countP q : Int))).sum := by
    rw [Nat.cast_list_sum, List.map_map]
    rfl
  rw [← hsum, ← Nat.cast_add, Nat.cast_inj]
  exact countP_subtree_eq isDeclaration q f

theorem decisions_eq (f : Cursor) :
    f.subtreeMeasures.cyclomaticComplexity - 1 = f.subtree.countP isDecision := by
  show 1 + (f.subtree.countP isDecision : Int) - 1 = _
  omega

theorem returns_eq (f : Cursor) : f.subtreeMeasures.returns = f.subtree.countP isReturn := rfl

/-! ## Maxima -/

theorem nesting_le {f g : Cursor} (h : g.subtree ⊆ f.subtree) :
    g.subtreeMeasures.maxNestingDepth ≤ f.subtreeMeasures.maxNestingDepth :=
  Int.ofNat_le.mpr (peak_le_peak h)

theorem conditions_le {f g : Cursor} (h : g.subtree ⊆ f.subtree) :
    g.subtreeMeasures.maxConditions ≤ f.subtreeMeasures.maxConditions :=
  Int.ofNat_le.mpr (peak_le_peak h)

theorem messageChain_le {c d : Cursor} (h : d ∈ c.subtree) : d.messageChain ≤ c.messageChain := by
  rw [messageChain_eq_peak, messageChain_eq_peak]
  exact peak_le_peak (subtree_sublist h).subset

theorem childUnder?_mem_children {c d : Cursor} {name : String} (h : c.childUnder? name = some d) :
    d ∈ c.children := by
  rw [childUnder?_eq_find?] at h
  exact List.mem_of_find?_eq_some h

/-- The longest chain of a body bounds that of every body inside it. -/
theorem bodyChain_le {f g body : Cursor} (hbody : f.childUnder? "body" = some body)
    (hg : g ∈ body.subtree) : g.bodyChain ≤ f.bodyChain := by
  have hf : f.bodyChain = body.messageChain := by
    unfold bodyChain
    rw [hbody]
  rw [hf]
  unfold bodyChain
  cases hinner : g.childUnder? "body" with
  | none => exact Nat.zero_le _
  | some inner =>
    exact messageChain_le
      (mem_subtree_trans hg (child_mem_subtree (childUnder?_mem_children hinner)))

/-- The record of a node against those of the outermost declarations inside it.  Its decisions and
its returns are those among its own nodes and those that the records inside count.  Its nesting and
its conditions are no less than those of any declaration inside, and neither is its member chain,
for the declarations inside its body. -/
theorem measure_innerDeclarations (f : Cursor) :
    let m := f.measure.1
    let gs := f.innerDeclarations
    m.cyclomaticComplexity - 1 =
      f.ownNodes.countP isDecision + (gs.map (fun g => g.measure.1.cyclomaticComplexity - 1)).sum ∧
    m.returns = f.ownNodes.countP isReturn + (gs.map (fun g => g.measure.1.returns)).sum ∧
    (∀ g ∈ gs, g.measure.1.maxNestingDepth ≤ m.maxNestingDepth ∧
      g.measure.1.maxConditions ≤ m.maxConditions) ∧
    ∀ body, f.childUnder? "body" = some body → ∀ g ∈ gs, g ∈ body.subtree →
      g.measure.1.maxMessageChains ≤ m.maxMessageChains := by
  intro m gs
  have hrecord : ∀ c : Cursor, c.measure.1 = c.subtreeMeasures := functionRecord_eq_subtreeMeasures
  refine ⟨?_, ?_, ?_, ?_⟩
  · simp only [m, hrecord, decisions_eq]
    exact countP_ownNodes isDecision f
  · simp only [m, hrecord, returns_eq]
    exact countP_ownNodes isReturn f
  · intro g hg
    have hsub := subtree_subset_of_innerDeclaration hg
    simp only [m, hrecord]
    exact ⟨nesting_le hsub, conditions_le hsub⟩
  · intro body hbody g _ hgbody
    exact Int.ofNat_le.mpr (bodyChain_le hbody hgbody)

/-- The body of a declaration without parameters: a loop, and the return of a member. -/
def loopAndReturn : Node :=
  .mk 4 { type := "statement_block", row := 2, field? := some "body" } [
    .mk 5 { type := "while_statement", row := 3 } [],
    .mk 6 { type := "return_statement", row := 4 } [
      .mk 7 { type := "member_expression", row := 4 } []]]

/-- A declaration whose body holds a branch and a second declaration. -/
theorem measure_innerDeclarations_loopAndReturn :
    let inner : Node := .mk 3 { type := "function_declaration", row := 2 } [loopAndReturn]
    let block : Node := .mk 1 { type := "statement_block", row := 0, field? := some "body" }
      [.mk 2 { type := "if_statement", row := 1 } [], inner]
    let f : Cursor := root (.mk 0 { type := "function_declaration", row := 0 } [block])
    let body : Cursor := f.down block
    let g : Cursor := body.down inner
    f.innerDeclarations = [g] ∧ f.childUnder? "body" = some body ∧ g ∈ body.subtree ∧
      f.measure.1.cyclomaticComplexity - 1 = 1 + (g.measure.1.cyclomaticComplexity - 1) ∧
      f.measure.1.returns = 0 + g.measure.1.returns ∧
      g.measure.1.maxNestingDepth ≤ f.measure.1.maxNestingDepth ∧
      g.measure.1.maxConditions ≤ f.measure.1.maxConditions ∧
      g.measure.1.maxMessageChains ≤ f.measure.1.maxMessageChains := by
  intro inner block f body g
  have hinner : f.innerDeclarations = [g] := by decide
  have hbody : f.childUnder? "body" = some body := by decide
  have hg : g ∈ body.subtree := by decide
  have hdecisions : f.ownNodes.countP isDecision = 1 := by decide
  have hreturns : f.ownNodes.countP isReturn = 0 := by decide
  obtain ⟨hcomplexity, hreturn, hmaxima, hchains⟩ := measure_innerDeclarations f
  simp only [hinner, hdecisions, hreturns, List.map_cons, List.map_nil, List.sum_cons,
    List.sum_nil, Int.add_zero] at hcomplexity hreturn
  have hgmem : g ∈ f.innerDeclarations := hinner ▸ List.mem_cons_self
  exact ⟨hinner, hbody, hg, hcomplexity, hreturn, (hmaxima g hgmem).1, (hmaxima g hgmem).2,
    hchains body hbody g hgmem hg⟩

end CodeMetrics.Cursor
