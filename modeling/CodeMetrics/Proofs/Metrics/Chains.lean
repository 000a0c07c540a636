import CodeMetrics.Proofs.Metrics.Function
import CodeMetrics.Proofs.Tree.Outermost

/-!
# Member chains outside the body

The longest member chain of a declaration is looked for twice, in the whole
subtree and in the body alone, and the second is recorded.  What is reported of
the first is true:

* **split** — the longest chain of the whole is that of the body or that of the
  nodes outside it (`Cursor.chains_eq_max`), so the two searches differ exactly
  if a node outside the body outdoes all of it (`Cursor.bodyChain_ne_chains_iff`);
* **report** — then, and only then, the difference is reported, with the length
  found outside and the length recorded (`Cursor.measure_reports_strayChain`).
-/

namespace CodeMetrics

namespace Cursor

/-! ## Inside and outside -/

/-- The nodes of the body, and none for a declaration without one. -/
def bodyNodes (f : Cursor) : List Cursor := (f.childUnder? "body").toList.flatMap subtree

/-- The nodes of a declaration that do not lie in its body. -/
def strayNodes (f : Cursor) : List Cursor := outside (f.childUnder? "body").toList f.subtree

/-- The number of member accesses in the subtree of a node. -/
def chainLength (a : Cursor) : Nat := a.subtree.countP isMemberAccess

theorem mem_strayNodes {f a : Cursor} : a ∈ f.strayNodes ↔ a ∈ f.subtree ∧ a ∉ f.bodyNodes := by
  simp [strayNodes, bodyNodes, outside]

/-- The body is a child, so its nodes belong to the subtree. -/
theorem bodyNodes_subset (f : Cursor) : f.bodyNodes ⊆ f.subtree := by
  intro a ha
  obtain ⟨body, hbody, hmem⟩ := List.mem_flatMap.mp ha
  rw [Option.mem_toList, childUnder?_eq_find?] at hbody
  exact mem_subtree_of_child (List.mem_of_find?_eq_some hbody) hmem

theorem chainLength_pos {a : Cursor} (h : a.isMemberAccess) : 0 < a.chainLength :=
  List.countP_pos_iff.mpr ⟨a, self_mem_subtree a, h⟩

/-! ## The two searches -/

theorem bodyChain_eq_peak (f : Cursor) :
    f.bodyChain = peak isMemberAccess chainLength f.bodyNodes := by
  unfold bodyChain bodyNodes
  cases f.childUnder? "body" with
  | none => rfl
  | some body =>
    rw [Option.toList_some, List.flatMap_singleton]
    exact messageChain_eq_peak body

/-- Every member access lies in the body or outside it. -/
theorem chains_eq_max (f : Cursor) :
    f.tally.chains = max f.bodyChain (peak isMemberAccess chainLength f.strayNodes) := by
  have hchains : f.tally.chains = peak isMemberAccess chainLength f.subtree := by
    rw [tally_eq, count_eq_fun isMemberAccess]
    rfl
  rw [hchains, bodyChain_eq_peak]
  apply Nat.le_antisymm
  · apply peak_le
    intro a ha haccess
    by_cases hbody : a ∈ f.bodyNodes
    · exact le_max_of_le_left (le_peak hbody haccess)
    · exact le_max_of_le_right (le_peak (mem_strayNodes.mpr ⟨ha, hbody⟩) haccess)
  · apply max_le
    · exact peak_le_peak (bodyNodes_subset f)
    · exact peak_le_peak fun a ha => (mem_strayNodes.mp ha).1

/-- The searches differ exactly if a member access outside the body outdoes all those in it. -/
theorem bodyChain_ne_chains_iff (f : Cursor) :
    f.bodyChain ≠ f.tally.chains ↔
      ∃ a ∈ f.strayNodes, a.isMemberAccess ∧
        ∀ b ∈ f.bodyNodes, b.isMemberAccess → b.chainLength < a.chainLength := by
  have houtdone : f.bodyChain < peak isMemberAccess chainLength f.strayNodes ↔
      ∃ a ∈ f.strayNodes, a.isMemberAccess ∧
        ∀ b ∈ f.bodyNodes, b.isMemberAccess → b.chainLength < a.chainLength := by
    rw [bodyChain_eq_peak]
    exact peak_lt_peak_iff fun a => chainLength_pos
  rw [← houtdone, chains_eq_max]
  omega

/-! ## The report -/

/-- The search through the whole declaration finds a chain no shorter than the one recorded.  If
some member access outside the body holds more member accesses than any in the body, measuring
reports this in one line, which names the largest number found outside and the number recorded;
otherwise it reports nothing.  A declaration without a body has zero recorded. -/
theorem measure_reports_strayChain (f : Cursor) :
    let m := f.measure.1
    let body := m.maxMessageChains
    let longest := ((f.strayNodes.filter isMemberAccess).map chainLength).max?.getD 0
    let outdone := ∃ a ∈ f.strayNodes, a.isMemberAccess ∧
      ∀ b ∈ f.bodyNodes, b.isMemberAccess → b.chainLength < a.chainLength
    body ≤ f.tally.chains ∧
    (outdone → ∃ e, f.measure.2 = [e] ∧ e.level = .debug ∧ e.message =
      s!"{m.name}: member chain of {longest} outside the body ignored, body has {body}") ∧
    (¬ outdone → f.measure.2 = []) ∧
    (f.childUnder? "body" = none → body = 0) := by
  intro m body longest outdone
  have hmax : f.tally.chains = max f.bodyChain longest := chains_eq_max f
  refine ⟨?_, ?_, ?_, ?_⟩
  · have hle : f.bodyChain ≤ f.tally.chains := by omega
    exact Int.ofNat_le.mpr hle
  · intro hout
    have hne : f.bodyChain ≠ f.tally.chains := (bodyChain_ne_chains_iff f).mpr hout
    -- the whole search outdoes the body, so what it found lies outside
    have hlongest : f.tally.chains = longest := by omega
    have hevents : f.measure.2 = [.chainOutsideBody f.functionName longest f.bodyChain] := by
      rw [← hlongest]
      exact if_neg hne
    exact ⟨_, hevents, rfl, rfl⟩
  · intro hin
    have heq : f.bodyChain = f.tally.chains :=
      Decidable.not_not.mp (mt (bodyChain_ne_chains_iff f).mp hin)
    exact if_pos heq
  · intro hnone
    show (f.bodyChain : Int) = 0
    rw [bodyChain, hnone]
    rfl

/-- A member access in the default value of a parameter is reported and not recorded; in the body it
is recorded and not reported. -/
theorem measure_reports_strayChain_defaultValue :
    let access : Node := .mk 4 { type := "member_expression", row := 0 } []
    let declared : List Node → List Node → Cursor := fun defaults statements =>
      root (.mk 0 { type := "function_declaration", row := 0 }
        [.mk 1 { type := "identifier", row := 0, field? := some "name", text? := some "f" } [],
          .mk 2 { type := "formal_parameters", row := 0, field? := some "parameters" } defaults,
          .mk 3 { type := "statement_block", row := 0, field? := some "body" } statements])
    (∃ e, (declared [access] []).measure.2 = [e] ∧ e.level = .debug ∧
      e.message = "f: member chain of 1 outside the body ignored, body has 0") ∧
    (declared [] [access]).measure.2 = [] := by
  intro access declared
  constructor
  · let f := declared [access] []
    have hname : f.measure.1.name = "f" := by decide
    have hlongest : ((f.strayNodes.filter isMemberAccess).map chainLength).max?.getD 0 = 1 := by
      decide
    have hbody : f.measure.1.maxMessageChains = 0 := by
      show (f.bodyChain : Int) = 0
      rw [bodyChain_eq_peak]
      decide
    obtain ⟨e, hevents, hlevel, hmessage⟩ := (measure_reports_strayChain f).2.1 (by decide)
    refine ⟨e, hevents, hlevel, ?_⟩
    rw [hmessage, hname, hlongest, hbody]
    rfl
  · exact (measure_reports_strayChain (declared [] [access])).2.2.1 (by decide)

end Cursor

end CodeMetrics
