import CodeMetrics.Proofs.Metrics.Function
import CodeMetrics.Proofs.Tree.Outermost

/-!
# Maxima over outermost nodes

The maxima of a record are taken over every node of a sort, and at each of them
the subtree is counted anew.  A subtree counts no less than one inside it, so
the outermost nodes would do:

* **maxima** — of weights that do not grow downwards, the largest is that of an
  outermost node (`Cursor.peak_eq_peak_outermost`).  This holds for nesting,
  conditions and member chains alike (`Cursor.measure_eq_max_outermost`);
* **decisions** — nesting leaves out one decision for each outermost one, at the
  least (`Cursor.nesting_add_length_le`), which ties it to the complexity of the
  same record (`Cursor.measure_nesting_complexity`).
-/

namespace CodeMetrics

namespace Cursor

/-! ## Maxima -/

/-- Where no node outweighs one that it lies below, the outermost nodes weigh the most. -/
theorem peak_eq_peak_outermost {p : Cursor → Bool} {weight : Cursor → Nat}
    (mono : ∀ g, ∀ d ∈ g.subtree, weight d ≤ weight g) (c : Cursor) :
    peak p weight c.subtree = peak p weight (outermost p c.subtree) := by
  apply Nat.le_antisymm
  · apply peak_le
    intro d hd hp
    obtain ⟨g, hg, hdg⟩ := exists_outermost_of_mem hd hp
    have hle : weight d ≤ weight g := mono g d hdg
    exact hle.trans (le_peak hg (mem_outermost.mp hg).2.1)
  · exact peak_le_peak (outermost_subset p c.subtree)

/-- Outermost nodes satisfy their condition, so all of them count. -/
theorem peak_outermost (p : Cursor → Bool) (weight : Cursor → Nat) (cs : List Cursor) :
    peak p weight (outermost p cs) = ((outermost p cs).map weight).max?.getD 0 := by
  have hall : (outermost p cs).filter p = outermost p cs :=
    List.filter_eq_self.mpr fun g hg => (mem_outermost.mp hg).2.1
  rw [peak, hall]

/-- A subtree counts no less than one inside it. -/
theorem countP_subtree_le (q : Cursor → Bool) (g d : Cursor) (h : d ∈ g.subtree) :
    d.subtree.countP q ≤ g.subtree.countP q :=
  (subtree_sublist h).countP_le

theorem nesting_eq_peak_outermost (f : Cursor) :
    f.tally.nesting = peak isDecision (fun d => d.subtree.countP isDecision - 1)
      (outermost isDecision f.subtree) := by
  rw [tally_eq, count_eq_fun isDecision]
  apply peak_eq_peak_outermost
  intro g d h
  exact Nat.sub_le_sub_right (countP_subtree_le isDecision g d h) 1

theorem conditions_eq_peak_outermost (f : Cursor) :
    f.tally.conditions = peak isConditional (fun i => i.subtree.countP isLogical)
      (outermost isConditional f.subtree) := by
  rw [tally_eq, count_eq_fun isLogical]
  exact peak_eq_peak_outermost (countP_subtree_le isLogical) f

theorem messageChain_eq_peak_outermost (c : Cursor) :
    c.messageChain = peak isMemberAccess (fun a => a.subtree.countP isMemberAccess)
      (outermost isMemberAccess c.subtree) := by
  rw [messageChain_eq_peak]
  exact peak_eq_peak_outermost (countP_subtree_le isMemberAccess) c

/-- The maxima of a record ask for the outermost nodes only: nesting for those among the decisions
of the subtree, conditions for those among its branches, and chains for those among the member
accesses of the body.  The subtree of each is counted once, and where there is none the maximum is
zero. -/
theorem measure_eq_max_outermost (f : Cursor) :
    let m := f.measure.1
    m.maxNestingDepth =
      (((outermost isDecision f.subtree).map
        (fun d => d.subtree.countP isDecision - 1)).max?.getD 0 : Nat) ∧
    m.maxConditions =
      (((outermost isConditional f.subtree).map
        (fun i => i.subtree.countP isLogical)).max?.getD 0 : Nat) ∧
    m.maxMessageChains =
      (match f.childUnder? "body" with
      | some body =>
        ((outermost isMemberAccess body.subtree).map
          (fun a => a.subtree.countP isMemberAccess)).max?.getD 0
      | none => 0 : Nat) := by
  intro m
  simp only [← peak_outermost]
  refine ⟨?_, ?_, ?_⟩
  · exact congrArg Nat.cast (nesting_eq_peak_outermost f)
  · exact congrArg Nat.cast (conditions_eq_peak_outermost f)
  · show (f.bodyChain : Int) = _
    rw [bodyChain]
    cases f.childUnder? "body" with
    | none => rfl
    | some body => exact congrArg Nat.cast (messageChain_eq_peak_outermost body)

/-! ## Decisions -/

/-- The largest of some weights, each lessened by one, and the number of them are together no more
than their sum. -/
theorem peak_sub_one_add_length_le {p : Cursor → Bool} {weight : Cursor → Nat} {cs : List Cursor}
    (pos : ∀ c ∈ cs, 0 < weight c) :
    peak p (fun c => weight c - 1) cs + cs.length ≤ (cs.map weight).sum := by
  induction cs with
  | nil => simp
  | cons c rest ih =>
    have hc : 0 < weight c := pos c List.mem_cons_self
    have hpos : ∀ d ∈ rest, 0 < weight d := fun d hd => pos d (List.mem_cons_of_mem c hd)
    have hrest := ih hpos
    simp only [peak_cons, List.length_cons, List.map_cons, List.sum_cons]
    split <;> omega

/-- Every decision lies in the subtree of exactly one outermost decision. -/
theorem decisions_eq_sum_outermost (f : Cursor) :
    f.tally.decisions =
      ((outermost isDecision f.subtree).map (fun d => d.subtree.countP isDecision)).sum := by
  rw [tally_eq]
  exact countP_subtree_eq_sum_outermost isDecision f

/-- Nesting leaves out one decision for each outermost one, at the least. -/
theorem nesting_add_length_le (f : Cursor) :
    f.tally.nesting + (outermost isDecision f.subtree).length ≤ f.tally.decisions := by
  rw [nesting_eq_peak_outermost, decisions_eq_sum_outermost]
  apply peak_sub_one_add_length_le
  intro g hg
  exact List.countP_pos_iff.mpr ⟨g, self_mem_subtree g, (mem_outermost.mp hg).2.1⟩

/-- A single outermost decision is all that nesting leaves out. -/
theorem nesting_of_outermost_eq_singleton {f d : Cursor}
    (h : outermost isDecision f.subtree = [d]) : f.tally.nesting = f.tally.decisions - 1 := by
  have hd : d.isDecision := (mem_outermost.mp (h ▸ List.mem_cons_self)).2.1
  rw [nesting_eq_peak_outermost, decisions_eq_sum_outermost, h]
  simp [peak_cons, hd]

theorem outermost_ne_nil_of_decisions_pos {f : Cursor} (h : 0 < f.tally.decisions) :
    outermost isDecision f.subtree ≠ [] := by
  intro hnil
  rw [decisions_eq_sum_outermost, hnil] at h
  exact Nat.lt_irrefl 0 h

theorem isDecision_of_isConditional {c : Cursor} (h : c.isConditional) : c.isDecision := by
  have hkind : c.kind = .conditional := beq_iff_eq.mp h
  unfold isDecision
  rw [hkind]
  rfl

/-- Branches are decisions, so without decisions no conditions are joined. -/
theorem conditions_eq_zero {f : Cursor} (h : f.tally.decisions = 0) : f.tally.conditions = 0 := by
  rw [tally_eq] at h ⊢
  apply Nat.eq_zero_of_le_zero
  apply peak_le
  intro i hi hbranch
  have hnone := List.countP_eq_zero.mp h i hi
  exact absurd (isDecision_of_isConditional hbranch) hnone

/-- A complexity of one leaves no room for nesting or conditions.  Otherwise nesting stays below the
complexity by two at the least, and by exactly two if and only if there is a single outermost
decision, which then has all others in its subtree. -/
theorem measure_nesting_complexity (f : Cursor) :
    let m := f.measure.1
    let tops := outermost isDecision f.subtree
    (m.cyclomaticComplexity = 1 → m.maxNestingDepth = 0 ∧ m.maxConditions = 0) ∧
    (2 ≤ m.cyclomaticComplexity →
      m.maxNestingDepth ≤ m.cyclomaticComplexity - 2 ∧
      (m.maxNestingDepth = m.cyclomaticComplexity - 2 ↔ ∃ d, tops = [d])) ∧
    ∀ d, tops = [d] → ∀ e ∈ f.subtree, e.isDecision → e ∈ d.subtree := by
  intro m tops
  have hcomplexity : m.cyclomaticComplexity = 1 + (f.tally.decisions : Int) := rfl
  have hnesting : m.maxNestingDepth = (f.tally.nesting : Int) := rfl
  have hconditions : m.maxConditions = (f.tally.conditions : Int) := rfl
  have hbound : f.tally.nesting + tops.length ≤ f.tally.decisions := nesting_add_length_le f
  refine ⟨?_, ?_, ?_⟩
  · intro hone
    have hnone : f.tally.decisions = 0 := by omega
    have hzero := conditions_eq_zero hnone
    omega
  · intro htwo
    have hpos : 0 < tops.length :=
      List.length_pos_iff.mpr (outermost_ne_nil_of_decisions_pos (by omega))
    refine ⟨by omega, ?_, ?_⟩
    · intro heq
      have hlength : tops.length = 1 := by omega
      exact List.length_eq_one_iff.mp hlength
    · rintro ⟨d, hd⟩
      have hsingle := nesting_of_outermost_eq_singleton hd
      omega
  · intro d htops e he hdecision
    obtain ⟨g, hg, heg⟩ := exists_outermost_of_mem he hdecision
    have hgd : g ∈ [d] := htops ▸ hg
    exact List.mem_singleton.mp hgd ▸ heg

/-- A loop and a branch, one in the other or side by side: in both cases the complexity is three,
but nesting comes to one in the first alone.  Without either there is no nesting. -/
theorem measure_nesting_complexity_loopAndBranch :
    let branch : Node := .mk 2 { type := "if_statement", row := 1 } []
    let loop : List Node → Node := .mk 1 { type := "while_statement", row := 0 }
    let program : List Node → Cursor := fun parts =>
      root (.mk 0 { type := "program", row := 0 } parts)
    let nested : Cursor := program [loop [branch]]
    let apart : Cursor := program [loop [], branch]
    let bare : Cursor := program []
    (nested.measure.1.cyclomaticComplexity = 3 ∧ nested.measure.1.maxNestingDepth = 1) ∧
    (apart.measure.1.cyclomaticComplexity = 3 ∧ apart.measure.1.maxNestingDepth < 1) ∧
    (bare.measure.1.cyclomaticComplexity = 1 ∧ bare.measure.1.maxNestingDepth = 0 ∧
      bare.measure.1.maxConditions = 0) := by
  intro branch loop program nested apart bare
  have hrecord : ∀ c : Cursor, c.measure.1 = c.subtreeMeasures := functionRecord_eq_subtreeMeasures
  have hnested : nested.measure.1.cyclomaticComplexity = 3 := by
    rw [hrecord]
    decide
  have hapart : apart.measure.1.cyclomaticComplexity = 3 := by
    rw [hrecord]
    decide
  have hbare : bare.measure.1.cyclomaticComplexity = 1 := by
    rw [hrecord]
    decide
  refine ⟨⟨hnested, ?_⟩, ⟨hapart, ?_⟩, hbare, ?_⟩
  · obtain ⟨_, hequal⟩ := (measure_nesting_complexity nested).2.1 (by omega)
    have htops : outermost isDecision nested.subtree = [nested.down (loop [branch])] := by decide
    have hsingle := hequal.mpr ⟨_, htops⟩
    omega
  · obtain ⟨hle, hequal⟩ := (measure_nesting_complexity apart).2.1 (by omega)
    have htops : (outermost isDecision apart.subtree).length = 2 := by decide
    have hdiffer : apart.measure.1.maxNestingDepth ≠ apart.measure.1.cyclomaticComplexity - 2 := by
      intro h
      obtain ⟨d, hd⟩ := hequal.mp h
      rw [hd] at htops
      cases htops
    omega
  · exact (measure_nesting_complexity bare).1 hbare

end Cursor

end CodeMetrics
