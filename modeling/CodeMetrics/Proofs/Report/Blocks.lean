import CodeMetrics.Proofs.Text.Pieces
import CodeMetrics.Report.Blocks

/-!
# What the plain report tells

The plain report can be read back.  Its lines are those of the blocks, each
followed by a blank one, where no label breaks a line.  The rule under a heading
tells the sort of a record, the heading its label and the measures the rest.  A
file's block starts the blocks of an analysis.

* `Report.blockLines` — the three lines of a block;
* `Report.pieces_blocks` — the lines of a report;
* `Report.blockLines_injective` — a block tells its record;
* `Report.analyses_of_records` — the records tell the analyses, except for their languages;
* `Report.blocks_lose_nothing` — so the report tells them.
-/

namespace CodeMetrics

/-- The label of a record. -/
def MetricsRecord.label : MetricsRecord → String
  | .file r => r.path
  | .function r => r.name

/-- The labels of an analysis do not break a line. -/
def Analysis.OneLined (a : Analysis) : Prop :=
  ∀ e ∈ a.registry, '\n' ∉ e.2.label.toList

instance (a : Analysis) : Decidable a.OneLined :=
  inferInstanceAs (Decidable (∀ e ∈ a.registry, '\n' ∉ e.2.label.toList))

namespace Report

/-! ## Lines -/

/-- The heading of a block. -/
def heading : MetricsRecord → String
  | .file r => r.path
  | .function r => r.name ++ "(): " ++ toString r.startLine

/-- The rule under the heading. -/
def rule : MetricsRecord → String
  | .file _ => fileRule
  | .function _ => functionRule

/-- The measures of a record as the report names them. -/
def measuresOf : MetricsRecord → List (String × Int)
  | .file r => fileMeasures r
  | .function r => functionMeasures r

/-- The lines of a block: the heading, the rule and the measures. -/
def blockLines (r : MetricsRecord) : List String := [heading r, rule r, measures (measuresOf r)]

/-- A block is its lines, each with an end. -/
theorem block_eq (r : MetricsRecord) : block r = "\n".intercalate (blockLines r ++ [""]) := by
  cases r <;> simp [block, fileBlock, functionBlock, blockLines, heading, rule, measuresOf,
    String.intercalate_cons_cons, String.append_assoc]

/-- The records of several analyses in order. -/
def records (as : List Analysis) : List MetricsRecord := as.flatMap (fun a => a.registry.map (·.2))

/-- The lines of a report: those of every block, and a blank one after each. -/
def reportLines (as : List Analysis) : List String :=
  (records as).flatMap (fun r => blockLines r ++ [""])

/-- The report is its lines. -/
theorem blocks_eq (as : List Analysis) : blocks as = "\n".intercalate (reportLines as) := by
  have hblocks : (fun r => "\n".intercalate (blockLines r ++ [""])) = block :=
    funext fun r => (block_eq r).symm
  rw [reportLines, Text.intercalate_flatMap _ (by simp), hblocks, records, List.map_flatMap]
  simp only [List.map_map]
  rfl

theorem reportLines_ne_nil {as : List Analysis} (h : as ≠ []) : reportLines as ≠ [] := by
  obtain ⟨a, rest, rfl⟩ := List.exists_cons_of_ne_nil h
  simp [reportLines, records, Analysis.registry, blockLines]

/-! ## Measures -/

/-- A named measure as it is written. -/
def cell (f : String × Int) : String := f.1 ++ ": " ++ toString f.2

theorem not_mem_cell {c : Char} (hdigit : c.isDigit = false) (hsign : c ≠ '-') (hcolon : c ≠ ':')
    (hspace : c ≠ ' ') {f : String × Int} (hname : c ∉ f.1.toList) : c ∉ (cell f).toList := by
  have hnumber := Text.not_mem_repr hdigit hsign f.2
  simp [cell, String.toList_append, hname, hnumber, hcolon, hspace]

theorem cell_injective {f g : String × Int} (hname : f.1 = g.1) (h : cell f = cell g) : f = g := by
  obtain ⟨name, n⟩ := f
  obtain ⟨name', n'⟩ := g
  obtain rfl : name = name' := hname
  have hnumber : toString n = toString n' := by simpa [cell] using h
  rw [Int.repr_inj.mp hnumber]

/-- Measures under the same names are told by their cells. -/
theorem eq_of_map_cell {fields others : List (String × Int)}
    (hnames : fields.map (·.1) = others.map (·.1)) (hcells : fields.map cell = others.map cell) :
    fields = others := by
  induction fields generalizing others with
  | nil => exact (List.map_eq_nil_iff.mp hnames.symm).symm
  | cons f rest ih =>
    cases others with
    | nil => cases hnames
    | cons g others =>
      obtain ⟨hname, hnames⟩ := List.cons.inj hnames
      obtain ⟨hcell, hcells⟩ := List.cons.inj hcells
      rw [cell_injective hname hcell, ih hnames hcells]

/-- Measures under the same names are told by their row, unless a name has a tab in it. -/
theorem measures_injective {fields others : List (String × Int)} (hne : fields ≠ [])
    (hnames : fields.map (·.1) = others.map (·.1)) (htabs : ∀ f ∈ fields, '\t' ∉ f.1.toList)
    (h : measures fields = measures others) : fields = others := by
  have hcells : ∀ l ∈ fields.map cell, '\t' ∉ l.toList := by
    intro l hl
    obtain ⟨f, hf, rfl⟩ := List.mem_map.mp hl
    exact not_mem_cell (by decide) (by decide) (by decide) (by decide) (htabs f hf)
  have hothers : ∀ l ∈ others.map cell, '\t' ∉ l.toList := by
    intro l hl
    obtain ⟨g, hg, rfl⟩ := List.mem_map.mp hl
    have hname : g.1 ∈ fields.map (·.1) := hnames ▸ List.mem_map_of_mem hg
    obtain ⟨f, hf, hfg⟩ := List.mem_map.mp hname
    exact not_mem_cell (by decide) (by decide) (by decide) (by decide) (hfg ▸ htabs f hf)
  have hone : others ≠ [] := by
    rintro rfl
    exact hne (List.map_eq_nil_iff.mp hnames)
  apply eq_of_map_cell hnames
  exact Text.eq_of_intercalate_eq rfl (by simpa using hne) (by simpa using hone) hcells hothers h

/-! ## Blocks -/

/-- The heading of a function tells its name and its line: what follows the last blank is the
line. -/
theorem heading_function_injective {r r' : FunctionRecord}
    (h : heading (.function r) = heading (.function r')) :
    r.name = r'.name ∧ r.startLine = r'.startLine := by
  have hblank : ∀ n : Int, ' ' ∉ n.repr.toList := Text.not_mem_repr (by decide) (by decide)
  -- the name may have blanks in it, and even look like a heading
  have hchars : (r.name.toList ++ "():".toList) ++ ' ' :: r.startLine.repr.toList =
      (r'.name.toList ++ "():".toList) ++ ' ' :: r'.startLine.repr.toList := by
    simpa [heading, String.toList_append] using congrArg String.toList h
  obtain ⟨hname, hline⟩ := Text.eq_of_append_cons_eq (hblank _) (hblank _) hchars
  exact ⟨String.toList_inj.mp (List.append_cancel_right hname),
    Int.repr_inj.mp (String.toList_inj.mp hline)⟩

theorem measuresOf_ne_nil (r : MetricsRecord) : measuresOf r ≠ [] := by
  cases r <;> simp [measuresOf, fileMeasures, functionMeasures]

/-- The names of the measures have neither a tab in them nor the end of a line. -/
theorem not_mem_measuresOf (r : MetricsRecord) :
    ∀ f ∈ measuresOf r, '\t' ∉ f.1.toList ∧ '\n' ∉ f.1.toList := by
  cases r <;> simp [measuresOf, fileMeasures, functionMeasures]

/-- The rules tell the sorts of records apart. -/
theorem fileRule_ne_functionRule : fileRule ≠ functionRule := by decide

/-- A block tells its record. -/
theorem blockLines_injective : Function.Injective blockLines := by
  intro r r' h
  have hheading : heading r = heading r' := (List.cons.inj h).1
  have hrule : rule r = rule r' := (List.cons.inj (List.cons.inj h).2).1
  have hrow : measures (measuresOf r) = measures (measuresOf r') :=
    (List.cons.inj (List.cons.inj (List.cons.inj h).2).2).1
  have htold (hnames : (measuresOf r).map (·.1) = (measuresOf r').map (·.1)) :
      measuresOf r = measuresOf r' :=
    measures_injective (measuresOf_ne_nil r) hnames
      (fun f hf => (not_mem_measuresOf r f hf).1) hrow
  cases r with
  | file r =>
    cases r' with
    | file r' =>
      have hmeasures : fileMeasures r = fileMeasures r' := htold rfl
      have hpath : r.path = r'.path := hheading
      cases r
      simp_all [fileMeasures]
    | function r' => exact absurd hrule fileRule_ne_functionRule
  | function r =>
    cases r' with
    | file r' => exact absurd hrule.symm fileRule_ne_functionRule
    | function r' =>
      have hmeasures : functionMeasures r = functionMeasures r' := htold rfl
      obtain ⟨hname, hline⟩ := heading_function_injective hheading
      cases r
      simp_all [functionMeasures]

/-! ## Reports -/

/-- The lines of a block do not break where its label does not. -/
theorem not_mem_blockLines {r : MetricsRecord} (hlabel : '\n' ∉ r.label.toList) :
    ∀ l ∈ blockLines r, '\n' ∉ l.toList := by
  have hheading : '\n' ∉ (heading r).toList := by
    cases r with
    | file r => exact hlabel
    | function r =>
      have hline : '\n' ∉ r.startLine.repr.toList :=
        Text.not_mem_repr (by decide) (by decide) _
      have hname : '\n' ∉ r.name.toList := hlabel
      simp [heading, String.toList_append, hname, hline]
  have hrule : '\n' ∉ (rule r).toList := by
    cases r with
    | file r => exact (by decide : '\n' ∉ fileRule.toList)
    | function r => exact (by decide : '\n' ∉ functionRule.toList)
  have hrow : '\n' ∉ (measures (measuresOf r)).toList := by
    apply Text.not_mem_intercalate (by decide)
    intro l hl
    obtain ⟨f, hf, rfl⟩ := List.mem_map.mp hl
    exact not_mem_cell (by decide) (by decide) (by decide) (by decide)
      (not_mem_measuresOf r f hf).2
  simp [blockLines, hheading, hrule, hrow]

/-- The lines of one-lined analyses do not break. -/
theorem not_mem_reportLines {as : List Analysis} (h : ∀ a ∈ as, a.OneLined) :
    ∀ l ∈ reportLines as, '\n' ∉ l.toList := by
  intro l hl
  obtain ⟨r, hr, hl⟩ := List.mem_flatMap.mp hl
  obtain ⟨a, ha, hr⟩ := List.mem_flatMap.mp hr
  obtain ⟨e, he, rfl⟩ := List.mem_map.mp hr
  rcases List.mem_append.mp hl with hl | hl
  · exact not_mem_blockLines (h a ha e he) l hl
  · rw [List.mem_singleton.mp hl]
    decide

/-- The lines of a report are found again. -/
theorem pieces_blocks {as : List Analysis} (hne : as ≠ []) (h : ∀ a ∈ as, a.OneLined) :
    Text.pieces '\n' (blocks as) = reportLines as := by
  rw [blocks_eq]
  exact Text.pieces_intercalate rfl (reportLines_ne_nil hne) (not_mem_reportLines h)

/-- The lines of a report tell its records, since every block takes four of them. -/
theorem records_of_reportLines {rs rs' : List MetricsRecord}
    (h : rs.flatMap (fun r => blockLines r ++ [""]) = rs'.flatMap (fun r => blockLines r ++ [""])) :
    rs = rs' := by
  induction rs generalizing rs' with
  | nil =>
    cases rs' with
    | nil => rfl
    | cons r' rs' => simp [blockLines] at h
  | cons r rs ih =>
    cases rs' with
    | nil => simp [blockLines] at h
    | cons r' rs' =>
      rw [List.flatMap_cons, List.flatMap_cons] at h
      -- both first blocks end with the fourth line
      obtain ⟨hfirst, hrest⟩ := List.append_inj h rfl
      rw [blockLines_injective (List.append_cancel_right hfirst), ih hrest]

theorem records_cons (a : Analysis) (rest : List Analysis) :
    records (a :: rest) =
      .file a.file :: (a.functions.values.map MetricsRecord.function ++ records rest) := by
  simp [records, Analysis.registry, OrderedTable.values]

/-- The functions of an analysis end where the next analysis starts with its file. -/
theorem functions_of_records {rs rs' : List FunctionRecord} {as bs : List Analysis}
    (h : rs.map MetricsRecord.function ++ records as =
      rs'.map MetricsRecord.function ++ records bs) : rs = rs' ∧ records as = records bs := by
  -- no analysis starts with a function
  have hfile (r : FunctionRecord) (rest : List MetricsRecord) (cs : List Analysis) :
      .function r :: rest ≠ records cs := by
    cases cs with
    | nil => simp [records]
    | cons c cs => simp [records_cons]
  induction rs generalizing rs' with
  | nil =>
    cases rs' with
    | nil => exact ⟨rfl, h⟩
    | cons r' rs' => exact absurd h.symm (hfile _ _ _)
  | cons r rs ih =>
    cases rs' with
    | nil => exact absurd h (hfile _ _ _)
    | cons r' rs' =>
      obtain ⟨hfirst, hrest⟩ := List.cons.inj h
      obtain ⟨rfl, hrecords⟩ := ih hrest
      cases hfirst
      exact ⟨rfl, hrecords⟩

/-- Two analyses have the same record of their file and the same records of their functions, in the
same order.  Their languages may differ. -/
def SameRecords (a b : Analysis) : Prop :=
  a.file = b.file ∧ a.functions.values = b.functions.values

/-- The records tell the analyses, but for their languages. -/
theorem analyses_of_records {as bs : List Analysis} (h : records as = records bs) :
    List.Forall₂ SameRecords as bs := by
  induction as generalizing bs with
  | nil =>
    cases bs with
    | nil => exact .nil
    | cons b bs => simp [records, Analysis.registry] at h
  | cons a as ih =>
    cases bs with
    | nil => simp [records, Analysis.registry] at h
    | cons b bs =>
      rw [records_cons, records_cons] at h
      obtain ⟨hfile, hrest⟩ := List.cons.inj h
      obtain ⟨hfunctions, hrecords⟩ := functions_of_records hrest
      exact .cons ⟨MetricsRecord.file.inj hfile, hfunctions⟩ (ih hrecords)

/-- A report on something is not empty. -/
theorem blocks_ne_empty {as : List Analysis} (h : as ≠ []) : blocks as ≠ "" := by
  obtain ⟨a, rest, rfl⟩ := List.exists_cons_of_ne_nil h
  intro hempty
  rw [blocks_eq, reportLines, records_cons, List.flatMap_cons] at hempty
  have hbreak := congrArg String.toList hempty
  simp [blockLines] at hbreak

/-- A report tells the records it is made of. -/
theorem records_of_blocks {as bs : List Analysis} (has : ∀ a ∈ as, a.OneLined)
    (hbs : ∀ b ∈ bs, b.OneLined) (h : blocks as = blocks bs) : records as = records bs := by
  by_cases ha : as = []
  · by_cases hb : bs = []
    · rw [ha, hb]
    · subst ha
      exact absurd h.symm (blocks_ne_empty hb)
  · by_cases hb : bs = []
    · subst hb
      exact absurd h (blocks_ne_empty ha)
    · apply records_of_reportLines
      show reportLines as = reportLines bs
      rw [← pieces_blocks ha has, h, pieces_blocks hb hbs]

/-- The plain report loses nothing but the languages, where no label breaks a line: its lines are
those of the blocks, three for each record and a blank one after them, and analyses with the same
report have the same records, file by file. -/
theorem blocks_lose_nothing {as : List Analysis} (has : ∀ a ∈ as, a.OneLined) :
    (as ≠ [] → Text.pieces '\n' (blocks as) =
      (as.flatMap (fun a => a.registry.map (·.2))).flatMap (fun r => blockLines r ++ [""])) ∧
    (∀ r, (blockLines r).length = 3) ∧
    ∀ bs, (∀ b ∈ bs, b.OneLined) → blocks as = blocks bs →
      List.Forall₂ SameRecords as bs := by
  refine ⟨fun hne => pieces_blocks hne has, fun r => rfl, ?_⟩
  intro bs hbs h
  exact analyses_of_records (records_of_blocks has hbs h)

/-- An analysis of a file without a name, with a function of which the name looks like a heading. -/
def oddLabels (language : String) : Analysis where
  file := { path := "", strings := 1 }
  language
  functions := .ofList [("f(): 1\t", { name := "f(): 1\t", startLine := -3 })]

/-- Odd labels are told apart, and the language is lost. -/
theorem blocks_lose_nothing_oddLabels :
    let (a, b) := (oddLabels "javascript", oddLabels "tsx")
    a.OneLined ∧ b.OneLined ∧ blocks [a] = blocks [b] ∧
    Text.pieces '\n' (blocks [a]) =
      ["", "~~~~~~~~~~~~", "PackageComplexity: 0\tStrings: 1\tAllConditions: 0", "",
        "f(): 1\t(): -3", "============", "SimpleCyclomaticComplexity: 1\tMaxNestingDepth: 0\t" ++
          "MaxConditions: 0\tParameters: 0\tReturns: 0\tMaxMessageChains: 0", ""] ∧
    List.Forall₂ SameRecords [a] [b] := by
  have ha : (oddLabels "javascript").OneLined := by decide
  have hb : (oddLabels "tsx").OneLined := by decide
  obtain ⟨hlines, -, htold⟩ := blocks_lose_nothing (List.forall_mem_singleton.mpr ha)
  refine ⟨ha, hb, rfl, (hlines (List.cons_ne_nil _ _)).trans (by decide), ?_⟩
  exact htold _ (List.forall_mem_singleton.mpr hb) rfl

end Report

end CodeMetrics
