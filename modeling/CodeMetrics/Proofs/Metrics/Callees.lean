import CodeMetrics.Proofs.Metrics.File
import CodeMetrics.Proofs.Metrics.Functions
import CodeMetrics.Proofs.Tree.Kinds

/-!
# What the name of an import call has a say in

The name whose calls import a module decides which calls count as imports and
which strings they hide, and nothing else:

* **indifference** — the records of the functions and the conditions do not
  depend on it (`Cursor.scan_functions`, `Cursor.scan_conditions`);
* **conservation** — a hidden string is charged to the import call that it is
  an argument of (`Cursor.hiding?`).  Where calls have one argument list at the
  most, no call is charged twice (`Cursor.ImportedWithin.eq_of_hiding?_eq`), so
  at most as many strings are hidden as there are import calls
  (`Cursor.DistinctIds.countP_hidden_le`).
-/

namespace CodeMetrics.Cursor

/-- The strings of a subtree, imported ones included. -/
def stringCount (r : Cursor) : Nat := r.subtree.countP (fun s => s.kind = .stringLiteral)

/-! ## At most all strings -/

/-- No visit counts more strings than there are, whatever the links say. -/
theorem strings_visit_le (callee : String) (links : Parents) (t : FileTally) (d : Cursor) :
    (t.visit callee links d d.kind).strings ≤
      t.strings + (if d.kind = .stringLiteral then 1 else 0 : Nat) := by
  rw [FileTally.visit_eq]
  by_cases h : d.kind = .stringLiteral <;> simp [h]
  split <;> omega

theorem scan_strings_le (callee : String) (r : Cursor) :
    (r.scan callee).counters.strings ≤ r.stringCount := by
  have hwalk : ∀ (cs : List Cursor) (t : Parents) (s : FileScan),
      (cs.foldl (Walk.visitAndLink (FileScan.visit callee)) (t, s)).2.counters.strings ≤
        s.counters.strings + (cs.countP (fun d => d.kind = .stringLiteral) : Nat) := by
    intro cs
    induction cs with
    | nil => intro t s; exact Int.le_of_eq (Int.add_zero _).symm
    | cons d rest ih =>
      intro t s
      have hrest := ih (t.recordChildren d) (s.visit callee t d)
      have hvisit := strings_visit_le callee t s.counters d
      rw [visit_counters] at hrest
      rw [List.foldl_cons, List.countP_cons]
      simp only [decide_eq_true_eq]
      exact hrest.trans (by omega)
  have h := hwalk r.subtree Parents.empty {}
  rw [← walk_eq_foldl] at h
  simpa [scan, stringCount] using h

/-! ## Charges -/

/-- The node two steps up: for an imported string, the call that imports it. -/
def hiding? (s : Cursor) : Option Cursor := s.parent?.bind parent?

/-- No call of the subtree has more than one argument list. -/
def SingleArguments (r : Cursor) : Prop :=
  ∀ c ∈ r.subtree, c.node.type = "call_expression" →
    c.node.children.countP (·.type == "arguments") ≤ 1

instance (r : Cursor) : Decidable r.SingleArguments :=
  inferInstanceAs (Decidable (∀ c ∈ _, _ → _))

/-- What an import call imports is charged to the call. -/
theorem ImportedWithin.exists_hiding? {callee : String} {r s : Cursor}
    (h : ImportedWithin callee r s) :
    ∃ call, s.hiding? = some call ∧ call ∈ r.subtree ∧ call.ImportCall callee := by
  obtain ⟨a, ha, _, _, ⟨call, hcall, hmem, himport⟩, _⟩ := h
  refine ⟨call, ?_, hmem, himport⟩
  rw [hiding?, Option.mem_def.mp ha]
  exact hcall

/-- Among the children of a node, one at the most satisfies a condition that is counted once at the
most. -/
theorem eq_of_countP_le_one {c a b : Cursor} {p : Node → Bool} (h : c.node.children.countP p ≤ 1)
    (ha : a ∈ c.children) (hb : b ∈ c.children) (hpa : p a.node) (hpb : p b.node) : a = b := by
  rw [List.countP_eq_length_filter] at h
  obtain ⟨na, hna, rfl⟩ := List.mem_map.mp ha
  obtain ⟨nb, hnb, rfl⟩ := List.mem_map.mp hb
  have hfa : na ∈ c.node.children.filter p := List.mem_filter.mpr ⟨hna, hpa⟩
  have hfb : nb ∈ c.node.children.filter p := List.mem_filter.mpr ⟨hnb, hpb⟩
  cases hfilter : c.node.children.filter p with
  | nil => simp [hfilter] at hfa
  | cons n rest =>
    have hrest : rest = [] := by
      rw [hfilter, List.length_cons] at h
      exact List.eq_nil_of_length_eq_zero (by omega)
    rw [hfilter, hrest, List.mem_singleton] at hfa hfb
    rw [hfa, hfb]

/-- With one argument list to a call, no call is charged with two strings. -/
theorem ImportedWithin.eq_of_hiding?_eq {callee : String} {r s s' : Cursor}
    (single : r.SingleArguments) (hs : ImportedWithin callee r s)
    (hs' : ImportedWithin callee r s') (h : s.hiding? = s'.hiding?) : s = s' := by
  obtain ⟨a, ha, hamem, htype, ⟨call, hcall, hmem, himport⟩, hfirst⟩ := hs
  obtain ⟨a', ha', hamem', htype', ⟨call', hcall', _, _⟩, hfirst'⟩ := hs'
  rw [Option.mem_def] at ha ha' hcall hcall'
  have hsame : call = call' := by
    rw [hiding?, hiding?, ha, ha', Option.bind_some, Option.bind_some, hcall, hcall'] at h
    exact Option.some.inj h
  subst hsame
  have hone := single call hmem (type_of_kind_eq_call himport.1)
  have hlists : a = a' :=
    eq_of_countP_le_one hone (mem_children_of_parent? hamem hmem hcall)
      (mem_children_of_parent? hamem' hmem hcall') (beq_iff_eq.mpr htype) (beq_iff_eq.mpr htype')
  rw [← hlists, hfirst] at hfirst'
  exact Option.some.inj hfirst'

/-- At most as many strings are hidden as there are import calls. -/
theorem DistinctIds.countP_hidden_le {r : Cursor} (distinct : r.DistinctIds)
    (single : r.SingleArguments) (callee : String) :
    r.subtree.countP (fun s => s.kind = .stringLiteral ∧ ImportedWithin callee r s) ≤
      r.subtree.countP (fun c => c.ImportCall callee) := by
  have hnodup : r.subtree.Nodup := List.Nodup.of_map id distinct
  suffices hcharges :
      ((r.subtree.filter
        (fun s => s.kind = .stringLiteral ∧ ImportedWithin callee r s)).map hiding?).length ≤
      ((r.subtree.filter (fun c => c.ImportCall callee)).map some).length by
    rwa [List.length_map, List.length_map, ← List.countP_eq_length_filter,
      ← List.countP_eq_length_filter] at hcharges
  refine List.Nodup.length_le_of_subset ?_ ?_
  · refine (hnodup.filter _).map_on ?_
    intro s hs s' hs' h
    rw [List.mem_filter, decide_eq_true_iff] at hs hs'
    exact ImportedWithin.eq_of_hiding?_eq single hs.2.2 hs'.2.2 h
  · intro call? hcall
    obtain ⟨s, hs, rfl⟩ := List.mem_map.mp hcall
    rw [List.mem_filter, decide_eq_true_iff] at hs
    obtain ⟨call, hhiding, hmem, himport⟩ := hs.2.2.exists_hiding?
    exact List.mem_map.mpr ⟨call, List.mem_filter.mpr ⟨hmem, decide_eq_true himport⟩, hhiding.symm⟩

/-- Two analyses of one subtree for different names of the import call, under whatever path and
language, have the same functions and conditions.  The strings counted are at most all strings; and
where identities are distinct and no call has two argument lists, those left out are no more than
the import calls. -/
theorem analyze_callees (r : Cursor) (path path' language language' callee callee' : String) :
    let a := (r.analyze path language callee).1
    let b := (r.analyze path' language' callee').1
    a.functions = b.functions ∧ a.file.allConditions = b.file.allConditions ∧
    a.file.strings ≤ r.stringCount ∧
    (r.DistinctIds → r.SingleArguments →
      r.stringCount ≤ a.file.strings + a.file.packageComplexity) := by
  intro a b
  refine ⟨?_, ?_, ?_, ?_⟩
  · exact (scan_functions callee r).trans (scan_functions callee' r).symm
  · exact (scan_conditions callee r).trans (scan_conditions callee' r).symm
  · exact scan_strings_le callee r
  · intro distinct single
    have hrecord : a.file = r.fileMeasures path callee := distinct.scan_record path callee
    have hsplit := countP_eq_add (fun s => s.kind = .stringLiteral)
      (fun s => ImportedWithin callee r s) r.subtree
    have hhidden := distinct.countP_hidden_le single callee
    simp only [Bool.decide_and] at hhidden
    rw [hrecord]
    simp only [fileMeasures, stringCount, Bool.decide_and, decide_not]
    omega

/-- A call of `require` with two strings: one is what it imports, one is counted. -/
theorem analyze_callees_requireBranch :
    let r : Cursor := root requireBranch
    let a := (r.analyze "a.js" "javascript" "require").1
    let b := (r.analyze "b.ts" "typescript" "import").1
    r.DistinctIds ∧ r.SingleArguments ∧ r.stringCount = 2 ∧
    a.functions = b.functions ∧ a.file.allConditions = b.file.allConditions ∧
    a.file.strings ≤ 2 ∧ 2 ≤ a.file.strings + a.file.packageComplexity := by
  intro r a b
  have hdistinct : r.DistinctIds := by decide
  have hsingle : r.SingleArguments := by decide
  have hcount : r.stringCount = 2 := by decide
  obtain ⟨hfunctions, hconditions, hle, hge⟩ :=
    analyze_callees r "a.js" "b.ts" "javascript" "typescript" "require" "import"
  have hge := hge hdistinct hsingle
  rw [hcount] at hle hge
  exact ⟨hdistinct, hsingle, hcount, hfunctions, hconditions, hle, hge⟩

end CodeMetrics.Cursor
