import CodeMetrics.Proofs.Metrics.Counts

/-!
# Kinds and labels

What the kind of a node says about its label, and its label about the kind:

* **one way** — calls have one type (`Cursor.type_of_kind_eq_call`), and bare
  tokens no kind but `other` (`Cursor.named_of_kind_ne_other`);
* **the other way** — label and operator settle every kind but whether the node
  is a declaration (`Cursor.kind_eq_or_of_label_eq`), so what the counters of a
  function look at is settled by them (`Cursor.ByLabel`).  Of the operator the
  label alone is looked at (`Node.joinsConditions_eq_any`).
-/

namespace CodeMetrics

/-- Of the operator a node looks at the label only. -/
theorem Node.joinsConditions_eq_any (n : Node) :
    n.joinsConditions =
      ((n.childUnder? "operator").map label).any (fun l => logicalOperators.contains l.type) := by
  unfold joinsConditions
  cases n.childUnder? "operator" with
  | none => rfl
  | some op => rfl

namespace Cursor

/-! ## From kinds to labels -/

theorem type_of_ofType_eq_call {t : String} (h : Kind.ofType t = .call) :
    t = "call_expression" := by
  unfold Kind.ofType at h
  split at h <;> first | rfl | cases h

theorem type_of_kind_eq_call {c : Cursor} (h : c.kind = .call) :
    c.node.type = "call_expression" := by
  unfold kind at h
  split at h
  · split at h
    · split at h <;> cases h
    · split at h <;> cases h
    · split at h <;> cases h
    · exact type_of_ofType_eq_call h
  · cases h

theorem named_of_kind_ne_other {c : Cursor} (h : c.kind ≠ .other) : c.node.label.named := by
  by_contra hbare
  apply h
  unfold kind
  rw [if_neg hbare]

/-! ## From labels to kinds -/

/-- What is called a comment has no kind that a measure looks at. -/
theorem kind_of_type_comment {c : Cursor} (h : c.node.type = "comment") : c.kind = .other := by
  unfold kind
  rw [h]
  by_cases hnamed : c.node.label.named
  · rw [if_pos hnamed]
    rfl
  · rw [if_neg hnamed]

section

variable {c d : Cursor} (hlabel : c.node.label = d.node.label)
  (hjoins : c.node.joinsConditions = d.node.joinsConditions)

include hlabel hjoins

/-- Two nodes with one label, whose operators agree, differ at most in whether they are
declarations. -/
theorem kind_eq_or_of_label_eq :
    c.kind = d.kind ∨ (c.kind = .functionDeclaration ∧ d.kind = .other) ∨
      (c.kind = .other ∧ d.kind = .functionDeclaration) := by
  have htype : c.node.type = d.node.type := congrArg Label.type hlabel
  unfold kind
  rw [hlabel, htype, hjoins]
  by_cases hnamed : d.node.label.named
  · rw [if_pos hnamed, if_pos hnamed]
    split
    · exact .inl rfl
    -- function expressions alone ask for the parent
    · cases c.isDefaultExport <;> cases d.isDefaultExport <;> decide
    · cases c.isDefaultExport <;> cases d.isDefaultExport <;> decide
    · exact .inl rfl
  · rw [if_neg hnamed, if_neg hnamed]
    exact .inl rfl

/-- A kind that no declaration has, and that says something, is settled by label and operator. -/
theorem kind_eq_iff_of_label_eq {k : Kind} (hdeclaration : k ≠ .functionDeclaration)
    (hother : k ≠ .other) : c.kind = k ↔ d.kind = k := by
  rcases kind_eq_or_of_label_eq hlabel hjoins with hkind | ⟨hc, hd⟩ | ⟨hc, hd⟩
  · rw [hkind]
  · rw [hc, hd]
    exact ⟨fun hk => absurd hk.symm hdeclaration, fun hk => absurd hk.symm hother⟩
  · rw [hc, hd]
    exact ⟨fun hk => absurd hk.symm hother, fun hk => absurd hk.symm hdeclaration⟩

end

/-- What a node says by its label and by whether its operator joins conditions. -/
def ByLabel {α : Type _} (f : Cursor → α) : Prop :=
  ∀ c d : Cursor, c.node.label = d.node.label →
    c.node.joinsConditions = d.node.joinsConditions → f c = f d

theorem byLabel_isDecision : ByLabel isDecision := by
  intro c d hlabel hjoins
  unfold isDecision
  rcases kind_eq_or_of_label_eq hlabel hjoins with hkind | ⟨hc, hd⟩ | ⟨hc, hd⟩
  · rw [hkind]
  · rw [hc, hd]
    rfl
  · rw [hc, hd]
    rfl

/-- Whether a node has a kind that no declaration has, and that says something. -/
theorem byLabel_beq_kind {k : Kind} (hdeclaration : k ≠ .functionDeclaration)
    (hother : k ≠ .other) : ByLabel (fun c => c.kind == k) := by
  intro c d hlabel hjoins
  rw [Bool.eq_iff_iff, beq_iff_eq, beq_iff_eq]
  exact kind_eq_iff_of_label_eq hlabel hjoins hdeclaration hother

theorem byLabel_isConditional : ByLabel isConditional := byLabel_beq_kind (by decide) (by decide)

theorem byLabel_isReturn : ByLabel isReturn := byLabel_beq_kind (by decide) (by decide)

theorem byLabel_isLogical : ByLabel isLogical := byLabel_beq_kind (by decide) (by decide)

theorem byLabel_isMemberAccess : ByLabel isMemberAccess := byLabel_beq_kind (by decide) (by decide)

end Cursor

end CodeMetrics
