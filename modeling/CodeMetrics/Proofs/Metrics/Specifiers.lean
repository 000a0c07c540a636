import CodeMetrics.Proofs.Metrics.Comments
import CodeMetrics.Proofs.Metrics.Merge

/-!
# Import specifiers behind comments

What an import call imports is told apart from the strings of a program by its
place: it is the first named child of the argument list.  A comment is a named
child too, and in front of the specifier it hides it.

* `Cursor.HidesSpecifier` — an argument list of an import call in which a string
  comes first among the arguments, but behind a comment;
* **lists** — a program imports as many strings as it has argument lists that
  start with one (`Cursor.DistinctIds.countP_imported`), so its other strings can
  be counted list by list (`Cursor.DistinctIds.strings_add_modules`);
* **comments** — taking comments out uncovers specifiers and hides none
  (`Cursor.StripsTo.hiddenSpecifiers_le`), and the strings of the file change by
  the number of those uncovered (`Cursor.analyze_strings_stripsTo`).
-/

namespace CodeMetrics

namespace Cursor

/-! ## Argument lists -/

/-- The arguments of an import call. -/
def ImportArguments (callee : String) (a : Cursor) : Prop :=
  a.node.type = "arguments" ∧ ∃ call ∈ a.parent?, call.ImportCall callee

/-- The arguments of an import call, with a string for the first named child. -/
def LeadsWithString (callee : String) (a : Cursor) : Prop :=
  a.ImportArguments callee ∧ ∃ s ∈ a.namedChildren.head?, s.kind = .stringLiteral

/-- The arguments of an import call, with a string for the first named child but for comments. -/
def NamesModule (callee : String) (a : Cursor) : Prop :=
  a.ImportArguments callee ∧
    ∃ s ∈ a.namedChildren.find? (·.node.type != "comment"), s.kind = .stringLiteral

/-- The first named child is a comment. -/
def LeadsWithComment (a : Cursor) : Prop :=
  ∃ first ∈ a.namedChildren.head?, first.node.type = "comment"

/-- The arguments of an import call, the specifier among them behind a comment. -/
def HidesSpecifier (callee : String) (a : Cursor) : Prop :=
  a.NamesModule callee ∧ a.LeadsWithComment

instance (callee : String) (a : Cursor) : Decidable (a.ImportArguments callee) :=
  inferInstanceAs (Decidable (_ ∧ ∃ _ ∈ _, _))

instance (callee : String) (a : Cursor) : Decidable (a.LeadsWithString callee) :=
  inferInstanceAs (Decidable (_ ∧ ∃ _ ∈ _, _))

instance (callee : String) (a : Cursor) : Decidable (a.NamesModule callee) :=
  inferInstanceAs (Decidable (_ ∧ ∃ _ ∈ _, _))

instance (a : Cursor) : Decidable a.LeadsWithComment :=
  inferInstanceAs (Decidable (∃ _ ∈ _, _))

instance (callee : String) (a : Cursor) : Decidable (a.HidesSpecifier callee) :=
  inferInstanceAs (Decidable (_ ∧ _))

/-- The number of specifiers in the subtree that stand behind comments. -/
def hiddenSpecifiers (callee : String) (c : Cursor) : Nat :=
  c.subtree.countP (fun a => a.HidesSpecifier callee)

/-- A list that starts with a string is one that names a module and does not hide it. -/
theorem leadsWithString_iff (callee : String) (a : Cursor) :
    a.LeadsWithString callee ↔ a.NamesModule callee ∧ ¬ a.LeadsWithComment := by
  unfold LeadsWithString NamesModule LeadsWithComment
  rw [and_assoc]
  refine and_congr_right ?_
  intro _
  cases a.namedChildren with
  | nil => simp
  | cons first rest =>
    by_cases hfirst : first.node.type = "comment"
    · -- behind a comment nothing is a string at the front
      simp [hfirst, kind_of_type_comment hfirst]
    · simp [hfirst]

theorem countP_namesModule (callee : String) (cs : List Cursor) :
    cs.countP (fun a => a.NamesModule callee) =
      cs.countP (fun a => a.HidesSpecifier callee) +
        cs.countP (fun a => a.LeadsWithString callee) := by
  rw [countP_eq_add _ (fun a => a.LeadsWithComment)]
  congr 1
  · refine List.countP_congr ?_
    intro a _
    rw [Bool.and_eq_true, decide_eq_true_iff, decide_eq_true_iff, decide_eq_true_iff,
      HidesSpecifier]
  · refine List.countP_congr ?_
    intro a _
    rw [Bool.and_eq_true, ← decide_not, decide_eq_true_iff, decide_eq_true_iff, decide_eq_true_iff,
      leadsWithString_iff]

/-! ## Strings, list by list -/

/-- The parents of the strings that a program imports are its argument lists that start with a
string, each once. -/
theorem DistinctIds.perm_parents_of_imported {t : Node} (distinct : (root t).DistinctIds)
    (callee : String) :
    (((root t).subtree.filter (fun s => s.kind = .stringLiteral ∧ Imported callee s)).map
        parent?).Perm
      (((root t).subtree.filter (fun a => a.LeadsWithString callee)).map some) := by
  have hnodup : (root t).subtree.Nodup := List.Nodup.of_map id distinct
  refine (List.perm_ext_iff_of_nodup ?_ ?_).mpr ?_
  · -- of two strings imported by one list, each is its first named child
    refine (hnodup.filter _).map_on ?_
    intro s hs s' hs' hparent
    rw [List.mem_filter, decide_eq_true_iff] at hs hs'
    obtain ⟨_, _, a, ha, _, _, hfirst⟩ := hs
    obtain ⟨_, _, a', ha', _, _, hfirst'⟩ := hs'
    have hsame : a = a' := Option.mem_unique ha (hparent ▸ ha')
    rw [← hsame, hfirst] at hfirst'
    exact Option.some.inj hfirst'
  · exact (hnodup.filter _).map (Option.some_injective _)
  · intro a?
    simp only [List.mem_map, List.mem_filter, decide_eq_true_iff]
    constructor
    · rintro ⟨s, ⟨hs, hstring, a, ha, htype, hcall, hfirst⟩, rfl⟩
      exact ⟨a, ⟨parent?_mem_subtree_root hs ha, ⟨htype, hcall⟩, s, hfirst, hstring⟩, ha.symm⟩
    · rintro ⟨a, ⟨ha, ⟨htype, hcall⟩, s, hfirst, hstring⟩, rfl⟩
      have hchild : s ∈ a.children := namedChildren_subset a (List.mem_of_head? hfirst)
      have hparent : s.parent? = some a := parent?_of_mem_children hchild
      exact ⟨s, ⟨mem_subtree_trans ha (child_mem_subtree hchild), hstring, a, hparent, htype, hcall,
        hfirst⟩, hparent⟩

theorem DistinctIds.countP_imported {t : Node} (distinct : (root t).DistinctIds)
    (callee : String) :
    (root t).subtree.countP (fun s => s.kind = .stringLiteral ∧ Imported callee s) =
      (root t).subtree.countP (fun a => a.LeadsWithString callee) := by
  have hlength := (distinct.perm_parents_of_imported callee).length_eq
  rw [List.length_map, List.length_map] at hlength
  rw [List.countP_eq_length_filter, List.countP_eq_length_filter, hlength]

/-- The strings of a file, with one added for each list that names a module, are all its strings and
one more for each specifier behind a comment. -/
theorem DistinctIds.strings_add_modules {t : Node} (distinct : (root t).DistinctIds)
    (path language callee : String) :
    ((root t).analyze path language callee).1.file.strings +
        (root t).subtree.countP (fun a => a.NamesModule callee) =
      ((root t).subtree.countP (fun s => s.kind = .stringLiteral) : Int) +
        (root t).hiddenSpecifiers callee := by
  have hrecord : ((root t).analyze path language callee).1.file.strings =
      (root t).subtree.countP (fun s => s.kind = .stringLiteral ∧ ¬ Imported callee s) := by
    rw [← strings_root]
    exact congrArg FileRecord.strings (distinct.scan_record path callee)
  have hsplit := countP_eq_add (fun s => s.kind = .stringLiteral) (fun s => Imported callee s)
    (root t).subtree
  have himported := distinct.countP_imported callee
  have hlists := countP_namesModule callee (root t).subtree
  simp only [Bool.decide_and, decide_not] at hrecord himported
  rw [hrecord, hsplit, himported, hlists, hiddenSpecifiers]
  omega

/-! ## Comments -/

namespace StripsTo

variable {c d : Cursor}

theorem parent?_cases (h : c.StripsTo d) :
    (c.parent? = none ∧ d.parent? = none) ∨
      ∃ p q, c.parent? = some p ∧ d.parent? = some q ∧ p.StripsTo q := by
  rcases parent?_cases_of_forall₂ h.above with hnone | ⟨p, q, hp, hq, hnode, habove⟩
  · exact .inl hnone
  · exact .inr ⟨p, q, hp, hq, hnode, habove⟩

theorem importCall_iff (h : c.StripsTo d) (callee : String) :
    c.ImportCall callee ↔ d.ImportCall callee := by
  rw [Cursor.importCall_iff, Cursor.importCall_iff, h.kind_eq, h.isImportCall_eq]

theorem importArguments_iff (h : c.StripsTo d) (callee : String) :
    c.ImportArguments callee ↔ d.ImportArguments callee := by
  unfold ImportArguments
  rw [h.node.type_eq]
  rcases h.parent?_cases with ⟨hc, hd⟩ | ⟨p, q, hc, hd, hpq⟩
  · rw [hc, hd]
  · rw [hc, hd]
    simp only [Option.mem_def, Option.some.injEq, exists_eq_left', hpq.importCall_iff]

/-- The named children are thinned as all children are. -/
theorem namedChildren (h : c.StripsTo d) :
    Thinned (fun e => e.node.IsComment) StripsTo c.namedChildren d.namedChildren := by
  refine Thinned.map (h.node.children.pick ?_) (fun _ hx => hx) (fun _ _ hxy => h.down hxy)
  intro n m hnm
  rw [hnm.label_eq]

theorem namesModule_iff (h : c.StripsTo d) (callee : String) :
    c.NamesModule callee ↔ d.NamesModule callee := by
  unfold NamesModule
  refine and_congr (h.importArguments_iff callee) ?_
  have hothers := h.namedChildren.filter (p := fun e => e.node.type != "comment")
    (q := fun e => e.node.type != "comment")
    (fun e he => by simp [he.type_eq]) (fun e f hef => by rw [hef.node.type_eq])
  rw [← List.head?_filter, ← List.head?_filter]
  revert hothers
  generalize c.namedChildren.filter _ = cs
  generalize d.namedChildren.filter _ = ds
  intro hothers
  cases hothers with
  | nil => exact Iff.rfl
  | cons hef _ => simp [hef.kind_eq]

/-- A comment at the front was at the front before, or stood behind others. -/
theorem leadsWithComment (h : c.StripsTo d) (hd : d.LeadsWithComment) : c.LeadsWithComment := by
  unfold LeadsWithComment at *
  have hnamed := h.namedChildren
  revert hnamed hd
  generalize c.namedChildren = cs
  generalize d.namedChildren = ds
  intro hd hnamed
  cases hnamed with
  | nil => exact hd
  -- what was taken out of the front was a comment
  | drop hx _ => exact ⟨_, rfl, hx.type_eq⟩
  | keep hef _ =>
    obtain ⟨first, hfirst, htype⟩ := hd
    rw [List.head?_cons, Option.mem_def, Option.some.injEq] at hfirst
    exact ⟨_, rfl, hef.node.type_eq.trans (hfirst ▸ htype)⟩

/-- Taking comments out hides no specifier. -/
theorem hiddenSpecifiers_le (h : c.StripsTo d) (callee : String) :
    d.hiddenSpecifiers callee ≤ c.hiddenSpecifiers callee := by
  refine countP_le_of_sublistForall₂ h.subtree.sublistForall₂ ?_
  intro f _ e _ hef
  rw [decide_eq_true_iff, decide_eq_true_iff]
  rintro ⟨hmodule, hcomment⟩
  exact ⟨(hef.namesModule_iff callee).mpr hmodule, hef.leadsWithComment hcomment⟩

theorem countP_namesModule_eq (h : c.StripsTo d) (callee : String) :
    c.subtree.countP (fun a => a.NamesModule callee) =
      d.subtree.countP (fun a => a.NamesModule callee) := by
  have hblind : CommentBlind (fun a => a.NamesModule callee) := by
    constructor
    · intro e he
      rw [decide_eq_false_iff_not]
      rintro ⟨⟨htype, _⟩, _⟩
      rw [he.type_eq] at htype
      exact absurd htype (by decide)
    · intro e f hef
      rw [decide_eq_decide]
      exact hef.namesModule_iff callee
  exact hblind.countP_subtree h

end StripsTo

/-- Taking comments out of a tree takes as many strings off the file as it uncovers specifiers, and
it hides none: the strings stay the same exactly if no specifier is uncovered. -/
theorem analyze_strings_stripsTo {t u : Node} (h : t.StripsTo u)
    (distinct : (root t).DistinctIds) (distinct' : (root u).DistinctIds)
    (path language callee : String) :
    let strings := fun n : Node => ((root n).analyze path language callee).1.file.strings
    let hidden := fun n : Node => (root n).hiddenSpecifiers callee
    strings t = strings u + (hidden t - hidden u : Int) ∧
    hidden u ≤ hidden t ∧
    (strings t = strings u ↔ hidden t = hidden u) := by
  intro strings hidden
  have hroot := stripsTo_root h
  have hbefore := distinct.strings_add_modules path language callee
  have hafter := distinct'.strings_add_modules path language callee
  have hstrings : (root t).subtree.countP (fun s => s.kind = .stringLiteral) =
      (root u).subtree.countP (fun s => s.kind = .stringLiteral) :=
    (commentBlind_kind (fun k => k = .stringLiteral) rfl).countP_subtree hroot
  rw [hstrings, hroot.countP_namesModule_eq] at hbefore
  have hexact : strings t = strings u + (hidden t - hidden u : Int) := by
    simp only [strings, hidden]
    omega
  refine ⟨hexact, hroot.hiddenSpecifiers_le callee, ?_⟩
  rw [hexact]
  omega

/-- A call of `require` with something in front of its specifier. -/
def requireCall (front : List Node) : Node :=
  .mk 0 { type := "program", row := 0 } [
    .mk 1 { type := "call_expression", row := 0 } [
      .mk 2 { type := "identifier", row := 0, field? := some "function", text? := some "require" }
        [],
      .mk 3 { type := "arguments", row := 0, field? := some "arguments" }
        (.mk 4 { type := "(", row := 0, named := false } [] :: front ++
          [.mk 6 { type := "string", row := 0 } []])]]

theorem requireCall_stripsTo :
    (requireCall [.mk 5 { type := "comment", row := 0 } []]).StripsTo (requireCall []) :=
  .mk (.keep (.mk (.keep (.mk .nil) (.keep (.mk (.keep (.mk .nil)
    (.drop ⟨rfl, rfl, rfl, rfl⟩ (.keep (.mk .nil) .nil)))) .nil))) .nil)

/-- The comment hides one specifier, which is one string more. -/
theorem analyze_strings_stripsTo_requireCall :
    let t := requireCall [.mk 5 { type := "comment", row := 0 } []]
    let u := requireCall []
    let strings := fun n : Node =>
      ((root n).analyze "a.js" "javascript" "require").1.file.strings
    t.StripsTo u ∧ (root t).DistinctIds ∧ (root u).DistinctIds ∧
      (root t).hiddenSpecifiers "require" = 1 ∧ (root u).hiddenSpecifiers "require" = 0 ∧
      strings t = strings u + 1 := by
  intro t u strings
  have hdistinct : (root t).DistinctIds := by decide
  have hdistinct' : (root u).DistinctIds := by decide
  have hhidden : (root t).hiddenSpecifiers "require" = 1 := by decide
  have hhidden' : (root u).hiddenSpecifiers "require" = 0 := by decide
  have hexact : strings t = strings u +
      ((root t).hiddenSpecifiers "require" - (root u).hiddenSpecifiers "require" : Int) :=
    (analyze_strings_stripsTo requireCall_stripsTo hdistinct hdistinct' "a.js" "javascript"
      "require").1
  refine ⟨requireCall_stripsTo, hdistinct, hdistinct', hhidden, hhidden', ?_⟩
  rw [hhidden, hhidden'] at hexact
  exact hexact

/-- A comment in front of its specifier makes an import call count a string that it does not count
without the comment. -/
theorem strings_change_with_comment :
    let t := requireCall [.mk 5 { type := "comment", row := 0 } []]
    let u := requireCall []
    t.StripsTo u ∧ (root t).DistinctIds ∧ (root u).DistinctIds ∧
      ((root t).analyze "a.js" "javascript" "require").1.file.strings = 1 ∧
      ((root u).analyze "a.js" "javascript" "require").1.file.strings = 0 := by
  intro t u
  have hdistinct : (root t).DistinctIds := by decide
  have hdistinct' : (root u).DistinctIds := by decide
  refine ⟨requireCall_stripsTo, hdistinct, hdistinct', ?_, ?_⟩
  · exact (congrArg FileRecord.strings (hdistinct.scan_record "a.js" "require")).trans (by decide)
  · exact (congrArg FileRecord.strings (hdistinct'.scan_record "a.js" "require")).trans (by decide)

end Cursor

end CodeMetrics
