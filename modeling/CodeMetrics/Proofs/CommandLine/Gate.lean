import CodeMetrics.CommandLine.Command
import CodeMetrics.Proofs.Metrics.Function
import CodeMetrics.Proofs.Metrics.Functions
import CodeMetrics.Proofs.Session.Opening
import CodeMetrics.Proofs.Settings.Checks
import CodeMetrics.Proofs.Value.Threshold

/-!
# The complexity gate

The command holds the highest complexity of a run against a gate.

* **records** — the highest complexity is above the gate just if that of a
  record is (`Settings.exceedsGate_worst`);
* **declarations** — the records are those of the declarations that are the
  last of their names, so the gate sees these and no others
  (`Run.exceeded_iff_lastOfName`).
-/

namespace CodeMetrics

/-- Some record of the analyses has a complexity above the gate. -/
def Settings.Exceeded (settings : Settings) (analyses : List Analysis) : Prop :=
  ∃ q, settings.failAbove = some q ∧
    ∃ a ∈ analyses, ∃ r ∈ a.functions.values, q.ltInt r.cyclomaticComplexity = true

/-! ## Records -/

theorem Analysis.maxComplexity_eq (a : Analysis) :
    a.maxComplexity = highest (a.functions.values.map (·.cyclomaticComplexity)) := rfl

theorem Command.worstComplexity_eq (analyses : List Analysis) :
    worstComplexity analyses = highest (analyses.map Analysis.maxComplexity) := rfl

/-- The highest of the highest complexities is above the gate just if the complexity of a record is.
A gate that has passed the checks is not below zero, which stands for no functions and for no
files. -/
theorem Settings.exceedsGate_worst {around : Surroundings} {file? : Option Path}
    {overrides : List (String × Value)} {settings : Settings}
    (hload : Settings.load around file? overrides = .ok settings) (analyses : List Analysis) :
    settings.exceedsGate (Command.worstComplexity analyses) = true ↔
      settings.Exceeded analyses := by
  unfold Exceeded exceedsGate
  cases hgate : settings.failAbove with
  | none => simp
  | some q =>
    obtain ⟨t, ht⟩ := exists_ofTable_of_load hload
    -- the checks speak of one; a complexity of zero occurs only where there is nothing to measure
    have hone : q.ltInt 1 = false := gate_of_ofTable ht hgate
    have hzero : q.ltInt 0 = false := Quantity.ltInt_eq_false_of_le (by decide) hone
    show q.ltInt (Command.worstComplexity analyses) = true ↔ _
    rw [Command.worstComplexity_eq, Quantity.ltInt_highest hzero]
    simp [Analysis.maxComplexity_eq, Quantity.ltInt_highest hzero]

/-! ## Declarations -/

open Cursor in
/-- A run is above the gate just if, in one of its trees, a declaration is that is the last of its
name. -/
theorem Run.exceeded_iff_lastOfName {fs : FileSystem} {settings : Settings} {paths : List Path}
    {s s' : Session} {analyses : List Analysis} {q : Quantity}
    (hanalyses : analyzePaths fs settings paths s = .ok analyses s')
    (hgate : settings.failAbove = some q) :
    settings.Exceeded analyses ↔ ∃ t ∈ answers s.supply paths.length, ∃ d,
      LastOfName (root t) d ∧ q.ltInt (1 + d.subtree.countP isDecision) = true := by
  let above (records : OrderedTable FunctionRecord) : Prop :=
    ∃ r ∈ records.values, q.ltInt r.cyclomaticComplexity = true
  have hrecords (t : Node) : above ((root t).scan settings.importCallee).functions ↔
      ∃ d, LastOfName (root t) d ∧ q.ltInt (1 + d.subtree.countP isDecision) = true := by
    simp only [above, mem_values_scan_functions]
    constructor
    · rintro ⟨r, ⟨d, hlast, rfl⟩, hr⟩
      rw [functionRecord_eq_subtreeMeasures] at hr
      exact ⟨d, hlast, hr⟩
    · rintro ⟨d, hlast, hd⟩
      refine ⟨d.functionRecord, ⟨d, hlast, rfl⟩, ?_⟩
      rw [functionRecord_eq_subtreeMeasures]
      exact hd
  -- from the analyses to their tables, from these to the trees, and there to the declarations
  calc
    settings.Exceeded analyses ↔ ∃ a ∈ analyses, above a.functions := by
      simp [Settings.Exceeded, hgate, above]
    _ ↔ ∃ records ∈ analyses.map (·.functions), above records := by simp
    _ ↔ ∃ t ∈ answers s.supply paths.length,
          above ((root t).scan settings.importCallee).functions := by
      rw [functions_of_analyzePaths hanalyses]
      simp
    _ ↔ _ := by simp only [hrecords]

end CodeMetrics
