import CodeMetrics.CommandLine.Standard
import CodeMetrics.Proofs.CommandLine.Gate

/-!
# What a run of the command leaves behind

A run prints the whole report or nothing, and its exit code tells whether
something went wrong or a complexity is above the gate.

* **end** — what is printed is the report, whatever the gate says
  (`Command.stdout_finish`), and the exit code is one of two
  (`Command.exitCode_finish`);
* **run** — `Command.run_of_request` puts the ways of a request together, and
  `Command.exitCode_run_eq_one_iff` says what the gate sees of the trees.
-/

namespace CodeMetrics

namespace Command

/-! ## The end of a run -/

section

variable (console : Console)

@[simp] theorem exitCode_withLine (o : CommandOutcome) (markup : String) :
    (withLine console o markup).exitCode = o.exitCode := by
  unfold withLine
  split <;> rfl

@[simp] theorem stdout_withLine (o : CommandOutcome) (markup : String) :
    (withLine console o markup).stdout = o.stdout := by
  unfold withLine
  split <;> rfl

/-- Only tables can be cut short in print. -/
theorem complete_printed_of_ne_rich {f : OutputFormat} (h : f ≠ .rich) (analyses : List Analysis) :
    (Report.printed console f analyses).complete = true := by
  cases f with
  | text => rfl
  | json => rfl
  | rich => exact absurd rfl h

/-- What is printed is the report, whether or not the gate is missed. -/
theorem stdout_finish (settings : Settings) (analyses : List Analysis) (log : List LogLine) :
    (finish console settings analyses log).stdout =
      (Report.printed console settings.outputFormat analyses).text := by
  unfold finish
  dsimp only
  split
  · rfl
  · split
    · split
      · rw [stdout_withLine]
      · rfl
    · rfl

/-- The exit code is zero where the report was printed to its end and the gate was not missed. -/
theorem exitCode_finish (settings : Settings) (analyses : List Analysis) (log : List LogLine) :
    (finish console settings analyses log).exitCode =
      if (Report.printed console settings.outputFormat analyses).complete &&
        !settings.exceedsGate (worstComplexity analyses) then 0 else 1 := by
  unfold finish Settings.exceedsGate Printout.complete
  dsimp only
  cases (Report.printed console settings.outputFormat analyses).fault? with
  | some u => simp
  | none =>
    cases settings.failAbove with
    | none => simp
    | some q => cases hq : q.ltInt (worstComplexity analyses) <;> simp [hq]

theorem exitCode_finish_eq_one_iff (settings : Settings) (analyses : List Analysis)
    (log : List LogLine) : (finish console settings analyses log).exitCode = 1 ↔
      (Report.printed console settings.outputFormat analyses).complete = false ∨
        settings.exceedsGate (worstComplexity analyses) = true := by
  rw [exitCode_finish]
  cases (Report.printed console settings.outputFormat analyses).complete <;>
    cases settings.exceedsGate (worstComplexity analyses) <;> simp

/-- No run in which every file was analysed ends with another code. -/
theorem exitCode_finish_eq_zero_of_ne_one {settings : Settings} {analyses : List Analysis}
    {log : List LogLine} (h : (finish console settings analyses log).exitCode ≠ 1) :
    (finish console settings analyses log).exitCode = 0 := by
  rw [exitCode_finish] at h ⊢
  split
  · rfl
  · rename_i hnot
    exact absurd (if_neg hnot) h

end

/-! ## The run -/

/-- The words of a command line make a request. -/
def Asks (frontend : Frontend) (around : Surroundings) (words : List String) (r : Request) : Prop :=
  frontend.read around.files words = .request r

theorem run_eq_execute {frontend : Frontend} {around : Surroundings} {words : List String}
    {r : Request} (h : Asks frontend around words r) (supply : List Node) :
    run frontend around words supply = execute frontend.console around r supply := by
  unfold Asks at h
  rw [run, h]

section

variable {console : Console} {around : Surroundings} {r : Request} {supply : List Node}
  {settings : Settings}

/-- Settings that are refused end the run without a report. -/
theorem execute_of_load_error {e : Trouble}
    (hload : Settings.load around r.config? r.overrides = .error e) :
    (execute console around r supply).exitCode = 1 ∧
      (execute console around r supply).stdout = "" := by
  unfold execute
  rw [hload]
  cases e with
  | reported f => simp
  | uncaught u => simp

/-- So does a file that is not analysed, whatever came of the files before it. -/
theorem execute_of_analyzePaths_error {e : Trouble} {s : Session}
    (hload : Settings.load around r.config? r.overrides = .ok settings)
    (hanalyses : Run.analyzePaths around.files settings r.files { supply } = .error e s) :
    (execute console around r supply).exitCode = 1 ∧
      (execute console around r supply).stdout = "" := by
  unfold execute
  rw [hload]
  dsimp only
  rw [hanalyses]
  cases e with
  | reported f => simp
  | uncaught u => simp

theorem execute_of_ok {analyses : List Analysis} {s : Session}
    (hload : Settings.load around r.config? r.overrides = .ok settings)
    (hanalyses : Run.analyzePaths around.files settings r.files { supply } = .ok analyses s) :
    execute console around r supply =
      finish console settings analyses (LogSetup.lines settings.logSetup.level s.events) := by
  unfold execute
  rw [hload]
  dsimp only
  rw [hanalyses]

end

/-- Where every file is analysed, the exit code is one just if the report was not printed to its end
or a record is above the gate. -/
theorem exitCode_run_eq_one_iff {frontend : Frontend} {around : Surroundings}
    {words : List String} {r : Request} {supply : List Node} {settings : Settings}
    {analyses : List Analysis} {s : Session}
    (h : Asks frontend around words r)
    (hload : Settings.load around r.config? r.overrides = .ok settings)
    (hanalyses : Run.analyzePaths around.files settings r.files { supply } = .ok analyses s) :
    (run frontend around words supply).exitCode = 1 ↔
      (Report.printed frontend.console settings.outputFormat analyses).complete = false ∨
        settings.Exceeded analyses := by
  rw [run_eq_execute h, execute_of_ok hload hanalyses, exitCode_finish_eq_one_iff,
    Settings.exceedsGate_worst hload]

/-- A request whose settings are refused, or one of whose files is not analysed, ends with exit code
one, and nothing is printed.  Otherwise there is an analysis of every file, the report on all of
them is printed in the chosen format, and the exit code is one if a record is above the gate and
zero if none is. -/
theorem run_of_request {frontend : Frontend} {around : Surroundings} {words : List String}
    {r : Request} (h : Asks frontend around words r) (supply : List Node) :
    let o := run frontend around words supply
    (∀ e, Settings.load around r.config? r.overrides = .error e →
      o.exitCode = 1 ∧ o.stdout = "") ∧
    ∀ settings, Settings.load around r.config? r.overrides = .ok settings →
      (∀ e s, Run.analyzePaths around.files settings r.files { supply } = .error e s →
        o.exitCode = 1 ∧ o.stdout = "") ∧
      ∀ analyses s, Run.analyzePaths around.files settings r.files { supply } = .ok analyses s →
        analyses.map (·.file.path) = r.files.map Path.text ∧
        (settings.outputFormat = .text → o.stdout = Report.blocks analyses) ∧
        (settings.outputFormat = .json → o.stdout = Report.json analyses ++ "\n") ∧
        (settings.outputFormat ≠ .rich →
          (settings.Exceeded analyses → o.exitCode = 1) ∧
          (¬ settings.Exceeded analyses → o.exitCode = 0)) := by
  intro o
  have ho : o = execute frontend.console around r supply := run_eq_execute h supply
  constructor
  · intro e hload
    rw [ho]
    exact execute_of_load_error hload
  intro settings hload
  constructor
  · intro e s hfailed
    rw [ho]
    exact execute_of_analyzePaths_error hload hfailed
  intro analyses s hanalyses
  rw [execute_of_ok hload hanalyses] at ho
  refine ⟨Run.paths_of_analyzePaths hanalyses, ?_, ?_, ?_⟩
  · intro hformat
    rw [ho, stdout_finish, hformat]
    rfl
  · intro hformat
    rw [ho, stdout_finish, hformat]
    rfl
  · intro hformat
    have hcode : o.exitCode = 1 ↔ _ := exitCode_run_eq_one_iff h hload hanalyses
    rw [complete_printed_of_ne_rich _ hformat] at hcode
    constructor
    · intro hexceeded
      exact hcode.mpr (.inr hexceeded)
    · intro hwithin
      rw [ho] at hcode ⊢
      apply exitCode_finish_eq_zero_of_ne_one
      simp [hcode, hwithin]

/-! ## A module of two functions -/

/-- A machine with one source and no settings. -/
def oneScript : Surroundings where
  files.look p := if p.names = ["a.js"] then .found (.file "".toUTF8) else .missing
  home := ⟨1, ["h"]⟩
  cwd := ⟨1, ["w"]⟩
  env? := fun _ => none
  runtime := .standard

/-- A declaration of a function, with identities from `i` on. -/
def declarationOf (i row : Nat) (name : String) (body : List Node) : Node :=
  .mk i { type := "function_declaration", row } [
    .mk (i + 1) { type := "identifier", row, field? := some "name", text? := some name } [],
    .mk (i + 2) { type := "statement_block", row, field? := some "body" } body]

/-- A function with a branch, and one without. -/
def branchThenPlain (second : String) : Node :=
  .mk 0 { type := "program", row := 0 } [
    declarationOf 1 0 "f" [.mk 4 { type := "if_statement", row := 0 } []],
    declarationOf 5 1 second []]

/-- The words that hold the source against the lowest gate. -/
def gateWords : List String := ["a.js", "--fail-above", "1"]

/-- The request of these words. -/
def gateRequest : Request := { files := [⟨0, ["a.js"]⟩], failAbove? := some 1 }

/-- The settings of this request on a machine without settings. -/
def gateSettings : Settings := { failAbove := some (.int 1) }

/-- These words need no files to be read. -/
theorem read_gateWords (files : FileSystem) :
    Frontend.standard.read files gateWords = .request gateRequest := by
  have hparse : Arguments.parse gateWords =
      some { files := ["a.js"], failAbove? := some "1" } := by decide +kernel
  have hgate : Arguments.gate? "1" = some 1 := by decide
  have hsource : Arguments.sourceFile? "a.js" = some ⟨0, ["a.js"]⟩ := by decide
  show Arguments.reading files gateWords = _
  rw [Arguments.reading, hparse]
  simp [Arguments.request?, Arguments.converted, hgate, hsource]
  rfl

theorem asks_gateWords : Asks .standard oneScript gateWords gateRequest := read_gateWords _

theorem load_gateRequest :
    Settings.load oneScript gateRequest.config? gateRequest.overrides = .ok gateSettings := rfl

/-- The only file is analysed by its tree. -/
theorem analyzePaths_gateRequest {tree : Node} (hsound : tree.damagedLine? = none) :
    ∃ s, Run.analyzePaths oneScript.files gateSettings gateRequest.files { supply := [tree] } =
      .ok [((Cursor.root tree).analyze "a.js" "javascript" "require").1] s := by
  let p : Path := ⟨0, ["a.js"]⟩
  have hlanguage : Language.ofPath? p = some .javascript := Run.ofPath?_script 0
  have hlimit : gateSettings.maxFileBytes = .ok 10485760 := rfl
  have hread : oneScript.files.readSource p 10485760 = .ok ("", 0) := rfl
  have hopen := Run.openFile_of_source hlanguage hlimit hread { supply := [tree] }
  have hfirst := Run.analyzePath_of_opened hopen
  have hnext : Run.nextTree { supply := [tree] } = tree := rfl
  rw [hnext, Run.judge_sound hsound, Run.analyzeTree_eq] at hfirst
  exact ⟨_, Run.analyzePaths_cons_of_ok hfirst []⟩

/-- A branch is above the lowest gate: the exit code is one, and the report is printed all the
same. -/
theorem run_of_request_branchThenPlain :
    let tree := branchThenPlain "g"
    let a := ((Cursor.root tree).analyze "a.js" "javascript" "require").1
    Asks .standard oneScript gateWords gateRequest ∧
    Settings.load oneScript gateRequest.config? gateRequest.overrides = .ok gateSettings ∧
    gateSettings.Exceeded [a] ∧
    (run .standard oneScript gateWords [tree]).exitCode = 1 ∧
    (run .standard oneScript gateWords [tree]).stdout = Report.blocks [a] := by
  intro tree a
  have hsound : tree.damagedLine? = none := rfl
  obtain ⟨s, hanalyses⟩ := analyzePaths_gateRequest hsound
  have hexceeded : gateSettings.Exceeded [a] := by
    have habove : ∃ d ∈ (Cursor.root tree).declarations, Cursor.LastOfName (Cursor.root tree) d ∧
        (Quantity.int 1).ltInt (1 + d.subtree.countP Cursor.isDecision) = true := by decide
    obtain ⟨d, -, hd⟩ := habove
    exact (Run.exceeded_iff_lastOfName hanalyses rfl).mpr ⟨tree, List.mem_singleton_self _, d, hd⟩
  obtain ⟨-, hloaded⟩ := run_of_request asks_gateWords [tree]
  obtain ⟨-, hfinished⟩ := hloaded gateSettings load_gateRequest
  obtain ⟨-, htext, -, hcode⟩ := hfinished [a] s hanalyses
  exact ⟨asks_gateWords, load_gateRequest, hexceeded, (hcode (by decide)).1 hexceeded, htext rfl⟩

/-! ## What the gate sees -/

open Cursor in
/-- In a run in which every file is analysed, the gate is missed just if a declaration that is the
last of its name is above it; the other way to exit code one is a report that cannot be printed to
its end, and only tables can be cut short.  Declarations that are replaced by later ones of the same
name are not seen.  Where no tree declares a name twice, there are none of these. -/
theorem exitCode_run_eq_one_iff_lastOfName {frontend : Frontend} {around : Surroundings}
    {words : List String} {r : Request} {supply : List Node} {settings : Settings} {gate : Int}
    {analyses : List Analysis} {s : Session} (h : Asks frontend around words r)
    (hload : Settings.load around r.config? r.overrides = .ok settings)
    (hgate : settings.failAbove = some (.int gate))
    (hanalyses : Run.analyzePaths around.files settings r.files { supply } = .ok analyses s) :
    let trees := Run.answers supply r.files.length
    let complete := (Report.printed frontend.console settings.outputFormat analyses).complete
    (settings.outputFormat ≠ .rich → complete = true) ∧
    ((run frontend around words supply).exitCode = 1 ↔ complete = false ∨
      ∃ t ∈ trees, ∃ d, LastOfName (root t) d ∧ gate < 1 + d.subtree.countP isDecision) ∧
    ((∀ t ∈ trees, ((root t).declarations.map functionName).Nodup) →
      ((run frontend around words supply).exitCode = 1 ↔ complete = false ∨
        ∃ t ∈ trees, ∃ d ∈ (root t).declarations, gate < 1 + d.subtree.countP isDecision)) := by
  intro trees complete
  have hlast := exitCode_run_eq_one_iff h hload hanalyses
  rw [Run.exceeded_iff_lastOfName hanalyses hgate] at hlast
  simp only [Quantity.ltInt, decide_eq_true_iff] at hlast
  refine ⟨fun hformat => complete_printed_of_ne_rich _ hformat analyses, hlast, ?_⟩
  intro hdistinct
  rw [hlast]
  apply or_congr_right
  constructor
  · rintro ⟨t, ht, d, hd, habove⟩
    exact ⟨t, ht, d, hd.mem_declarations, habove⟩
  · rintro ⟨t, ht, d, hd, habove⟩
    exact ⟨t, ht, d, lastOfName_of_nodup (hdistinct t ht) hd, habove⟩

/-- The first of two functions of different names is above the lowest gate, and the gate sees it. -/
theorem exitCode_run_eq_one_iff_lastOfName_branchThenPlain :
    let tree := branchThenPlain "g"
    Asks .standard oneScript gateWords gateRequest ∧
    Settings.load oneScript gateRequest.config? gateRequest.overrides = .ok gateSettings ∧
    gateSettings.failAbove = some (.int 1) ∧
    ((Cursor.root tree).declarations.map Cursor.functionName).Nodup ∧
    (run .standard oneScript gateWords [tree]).exitCode = 1 := by
  intro tree
  have hsound : tree.damagedLine? = none := rfl
  obtain ⟨s, hanalyses⟩ := analyzePaths_gateRequest hsound
  have hdistinct : ((Cursor.root tree).declarations.map Cursor.functionName).Nodup := by
    decide
  have habove : ∃ d ∈ (Cursor.root tree).declarations,
      (1 : Int) < 1 + d.subtree.countP Cursor.isDecision := by decide
  have hcode := (exitCode_run_eq_one_iff_lastOfName asks_gateWords load_gateRequest rfl
    hanalyses).2.2 (by simpa [gateRequest, Run.answers] using hdistinct)
  refine ⟨asks_gateWords, load_gateRequest, rfl, hdistinct, hcode.mpr (.inr ?_)⟩
  exact ⟨tree, List.mem_singleton_self _, habove⟩

/-- Under one name the second function replaces the first, and the run ends as if there were no
branch. -/
theorem exitCode_run_of_replaced :
    let tree := branchThenPlain "f"
    Asks .standard oneScript gateWords gateRequest ∧
    Settings.load oneScript gateRequest.config? gateRequest.overrides = .ok gateSettings ∧
    gateSettings.failAbove = some (.int 1) ∧
    (∃ analyses s, Run.analyzePaths oneScript.files gateSettings gateRequest.files
      { supply := [tree] } = .ok analyses s) ∧
    (∃ d ∈ (Cursor.root tree).declarations,
      (1 : Int) < 1 + d.subtree.countP Cursor.isDecision) ∧
    (run .standard oneScript gateWords [tree]).exitCode = 0 := by
  intro tree
  have hsound : tree.damagedLine? = none := rfl
  obtain ⟨s, hanalyses⟩ := analyzePaths_gateRequest hsound
  have hbelow : ∀ d ∈ (Cursor.root tree).declarations, Cursor.LastOfName (Cursor.root tree) d →
      (Quantity.int 1).ltInt (1 + d.subtree.countP Cursor.isDecision) = false := by decide
  have hwithin : ¬ gateSettings.Exceeded
      [((Cursor.root tree).analyze "a.js" "javascript" "require").1] := by
    rw [Run.exceeded_iff_lastOfName hanalyses rfl]
    rintro ⟨t, ht, d, hd, habove⟩
    obtain rfl : t = tree := List.mem_singleton.mp ht
    rw [hbelow d hd.mem_declarations hd] at habove
    cases habove
  refine ⟨asks_gateWords, load_gateRequest, rfl, ⟨_, s, hanalyses⟩, by decide, ?_⟩
  have hcode := exitCode_run_eq_one_iff asks_gateWords load_gateRequest hanalyses
  rw [run_eq_execute asks_gateWords, execute_of_ok load_gateRequest hanalyses] at hcode ⊢
  apply exitCode_finish_eq_zero_of_ne_one
  rw [Ne, hcode]
  rintro (hcut | hexceeded)
  · cases hcut
  · exact hwithin hexceeded

end Command

end CodeMetrics
