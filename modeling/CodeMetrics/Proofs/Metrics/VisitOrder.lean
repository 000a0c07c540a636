import CodeMetrics.Proofs.Metrics.File
import CodeMetrics.Proofs.Metrics.Function

/-!
# The order of visits

The counters of a file can be fed with any visits: of any nodes, taken to be of
any kinds, as often as one likes.  With one table of links for all of them,
every visit adds to one counter what it would add at any other time.

* **one visit** — a visit adds to a single counter (`FileTally.visit_keeps_two`),
  and two visits can change places (`FileTally.visit_right_comm`);
* **signs** — no counter falls below zero (`FileTally.NonNegative.visit`), so no
  rule stands against the record of a file (`Cursor.check?_analyze_file`);
* **many visits** — only which visits there were matters for the record, and no
  record on the way breaks a rule (`FileTally.record_of_visits`).
-/

namespace CodeMetrics

theorem FileRecord.check?_eq_none_iff (r : FileRecord) :
    r.check? = none ↔ ∀ f ∈ r.counts, 0 ≤ f.2 := by
  rw [FileRecord.check?, Option.map_eq_none_iff, find?_negative_eq_none_iff]

namespace FileTally

/-! ## One visit -/

/-- Visits add to the counters, so it does not matter which of two comes first. -/
theorem visit_right_comm (callee : String) (links : Parents) (t : FileTally)
    (v w : Cursor × Kind) :
    (t.visit callee links v.1 v.2).visit callee links w.1 w.2 =
      (t.visit callee links w.1 w.2).visit callee links v.1 v.2 := by
  simp only [visit_eq, FileTally.mk.injEq]
  exact ⟨Int.add_right_comm .., Int.add_right_comm .., Int.add_right_comm ..⟩

/-- A visit leaves two of the three counters as they are. -/
theorem visit_keeps_two (callee : String) (links : Parents) (t : FileTally) (c : Cursor)
    (kind : Kind) :
    let next := t.visit callee links c kind
    next.imports = t.imports ∧ next.conditions = t.conditions ∨
      next.strings = t.strings ∧ next.conditions = t.conditions ∨
      next.strings = t.strings ∧ next.imports = t.imports := by
  intro next
  have hnext : next = _ := visit_eq callee links t c kind
  rw [hnext]
  by_cases hstring : kind = .stringLiteral
  · exact .inl (by simp [hstring])
  · by_cases hcall : kind = .call
    · exact .inr (.inl (by simp [hcall]))
    · exact .inr (.inr (by simp [hstring, hcall]))

theorem visit_le (callee : String) (links : Parents) (t : FileTally) (c : Cursor) (kind : Kind) :
    let next := t.visit callee links c kind
    t.strings ≤ next.strings ∧ t.imports ≤ next.imports ∧ t.conditions ≤ next.conditions := by
  intro next
  have hnext : next = _ := visit_eq callee links t c kind
  rw [hnext]
  refine ⟨?_, ?_, ?_⟩ <;> exact Int.le_add_of_nonneg_right (Int.natCast_nonneg _)

/-- A conditional counts once, and then once more for every condition that it joins beyond the
first. -/
theorem conditions_visit_conditional (callee : String) (links : Parents) (t : FileTally)
    (c : Cursor) :
    let joined : Int := c.count Cursor.isLogical
    (t.visit callee links c .conditional).conditions =
      t.conditions + 1 + if 0 < joined then joined - 1 else 0 := by
  intro joined
  simp only [visit]
  split
  · rfl
  · exact (Int.add_zero _).symm

/-! ## Counters below zero -/

/-- No counter is below zero. -/
structure NonNegative (t : FileTally) : Prop where
  strings : 0 ≤ t.strings
  imports : 0 ≤ t.imports
  conditions : 0 ≤ t.conditions

theorem nonNegative_start : NonNegative {} :=
  ⟨Int.le_refl 0, Int.le_refl 0, Int.le_refl 0⟩

theorem NonNegative.visit {t : FileTally} (h : t.NonNegative) (callee : String) (links : Parents)
    (c : Cursor) (kind : Kind) : (t.visit callee links c kind).NonNegative := by
  obtain ⟨hstrings, himports, hconditions⟩ := visit_le callee links t c kind
  exact ⟨h.strings.trans hstrings, h.imports.trans himports, h.conditions.trans hconditions⟩

/-- No rule stands against a record of counters that are not below zero. -/
theorem NonNegative.check?_record {t : FileTally} (h : t.NonNegative) (path : String) :
    (t.record path).check? = none := by
  rw [FileRecord.check?_eq_none_iff]
  intro f hf
  simp only [FileRecord.counts, record, List.mem_cons, List.not_mem_nil, or_false] at hf
  rcases hf with rfl | rfl | rfl
  · exact h.strings
  · exact h.imports
  · exact h.conditions

/-! ## Many visits -/

/-- The counters after visits one after the other, each of a node taken to be of some kind. -/
def ofVisits (callee : String) (links : Parents) (visits : List (Cursor × Kind)) : FileTally :=
  visits.foldl (fun t v => t.visit callee links v.1 v.2) {}

theorem ofVisits_append_singleton (callee : String) (links : Parents)
    (visits : List (Cursor × Kind)) (c : Cursor) (kind : Kind) :
    ofVisits callee links (visits ++ [(c, kind)]) =
      (ofVisits callee links visits).visit callee links c kind := by
  rw [ofVisits, List.foldl_append]
  rfl

theorem ofVisits_perm (callee : String) (links : Parents) {visits others : List (Cursor × Kind)}
    (h : visits.Perm others) : ofVisits callee links visits = ofVisits callee links others :=
  h.foldl_eq' (fun v _ w _ t => visit_right_comm callee links t v w) {}

/-- A visit changes one count of the record at most. -/
theorem countP_changed_le_one (callee : String) (links : Parents) (t : FileTally) (c : Cursor)
    (kind : Kind) (path : String) :
    ((t.record path).counts.zip ((t.visit callee links c kind).record path).counts).countP
      (fun e => e.1 ≠ e.2) ≤ 1 := by
  have hkept := visit_keeps_two callee links t c kind
  generalize t.visit callee links c kind = next at hkept ⊢
  simp only [FileRecord.counts, record, List.zip_cons_cons, List.zip_nil_left, List.countP_cons,
    List.countP_nil, ne_eq, Prod.mk.injEq, true_and, decide_eq_true_iff]
  rcases hkept with ⟨h, h'⟩ | ⟨h, h'⟩ | ⟨h, h'⟩ <;>
    · simp only [h, h', not_true_eq_false, if_false]
      split <;> omega

theorem nonNegative_ofVisits (callee : String) (links : Parents) (visits : List (Cursor × Kind)) :
    (ofVisits callee links visits).NonNegative := by
  induction visits using List.reverseRecOn with
  | nil => exact nonNegative_start
  | append_singleton visits v ih =>
    rw [ofVisits_append_singleton]
    exact ih.visit callee links v.1 v.2

/-- With one table of links for all visits, the record is the same in whatever order the visits are
made.  One more visit changes a single count or none and lowers no count; a conditional adds one,
and all but one of the conditions that it joins.  No rule for records stands against the record that
the first visits lead to, however many they are. -/
theorem record_of_visits (callee : String) (links : Parents) (path : String) :
    let built (visits : List (Cursor × Kind)) := (ofVisits callee links visits).record path
    (∀ visits others, visits.Perm others → built visits = built others) ∧
    (∀ visits c kind,
      let now := built visits
      let next := built (visits ++ [(c, kind)])
      (now.counts.zip next.counts).countP (fun e => e.1 ≠ e.2) ≤ 1 ∧
      List.Forall₂ (fun e e' => e.1 = e'.1 ∧ e.2 ≤ e'.2) now.counts next.counts ∧
      (kind = .conditional →
        let joined : Int := c.count Cursor.isLogical
        next.allConditions = now.allConditions + 1 + if 0 < joined then joined - 1 else 0)) ∧
    ∀ visits front, front <+: visits → (built front).check? = none := by
  intro built
  refine ⟨?_, ?_, fun _ front _ => (nonNegative_ofVisits callee links front).check?_record path⟩
  · intro visits others h
    show (ofVisits callee links visits).record path = _
    rw [ofVisits_perm callee links h]
  · intro visits c kind now next
    let t := ofVisits callee links visits
    have hnext : next = (t.visit callee links c kind).record path :=
      congrArg (record · path) (ofVisits_append_singleton callee links visits c kind)
    obtain ⟨hstrings, himports, hconditions⟩ := visit_le callee links t c kind
    refine ⟨?_, ?_, ?_⟩
    · rw [hnext]
      exact countP_changed_le_one callee links t c kind path
    · rw [hnext]
      exact .cons ⟨rfl, hstrings⟩ (.cons ⟨rfl, himports⟩ (.cons ⟨rfl, hconditions⟩ .nil))
    · rintro rfl
      rw [hnext]
      exact conditions_visit_conditional callee links t c

/-- A connective with another one inside, visited as a string and as a conditional. -/
theorem record_of_visits_connectiveAsOtherKinds :
    let operator (i : Nat) : Node :=
      .mk i { type := "&&", row := 0, named := false, field? := some "operator" } []
    let connective (i : Nat) (inner : List Node) : Node :=
      .mk i { type := "binary_expression", row := 0 } (operator (i + 1) :: inner)
    let c := Cursor.root (connective 0 [connective 2 []])
    let built (visits : List (Cursor × Kind)) :=
      (ofVisits "require" .empty visits).record "a.js"
    built [(c, .stringLiteral), (c, .conditional)] =
      built [(c, .conditional), (c, .stringLiteral)] ∧
    (built [(c, .stringLiteral), (c, .conditional)]).allConditions =
      (built [(c, .stringLiteral)]).allConditions + 2 ∧
    (built [(c, .stringLiteral)]).check? = none := by
  intro operator connective c built
  obtain ⟨horder, hstep, hprefix⟩ := record_of_visits "require" .empty "a.js"
  have hjoined : c.count Cursor.isLogical = 2 := by
    rw [Cursor.count_eq_countP]
    decide
  refine ⟨horder _ _ (.swap ..), ?_, ?_⟩
  · have hconditions := (hstep [(c, .stringLiteral)] c .conditional).2.2 rfl
    rw [hjoined] at hconditions
    exact hconditions.trans (Int.add_assoc ..)
  · exact hprefix [(c, .stringLiteral), (c, .conditional)] _ ⟨_, rfl⟩

end FileTally

/-- So no rule stands against the record of an analysis, wherever it starts. -/
theorem Cursor.check?_analyze_file (r : Cursor) (path language callee : String) :
    (r.analyze path language callee).1.file.check? = none := by
  let counted (s : FileScan) : Prop := s.counters.NonNegative
  suffices hvisit : ∀ links s d, counted s → counted (s.visit callee links d) from
    (walk_invariant hvisit r Parents.empty FileTally.nonNegative_start).check?_record path
  intro links s d hs
  show (s.visit callee links d).counters.NonNegative
  rw [visit_counters]
  exact hs.visit callee links d d.kind

end CodeMetrics
