import CodeMetrics.Proofs.Session.Isolation

/-!
# Opening a file and judging its tree

The analysis of one file of several has two parts.  The file is opened: its
language is told, its text is read, and its tree is asked for.  Then the tree is
judged: a damaged one is refused or reported, and what is left is measured.

* `Run.openFile`, `Run.judge` — the two parts, which make up the analysis
  (`Run.analyzePath_eq`);
* **opening** — a file that cannot be opened is no syntax error, and one that is
  opened has the next tree of the supply and is reported at the lowest level
  only (`Run.opening_openFile`);
* **judging** — only a damaged tree is not simply analysed (`Run.judge_sound`,
  `Run.judge_refused`, `Run.judge_recovered`).
-/

namespace CodeMetrics

/-- Whether the trouble is a syntax error. -/
def Trouble.isParsing : Trouble → Bool
  | .reported f => f.kind == .parsing
  | .uncaught _ => false

/-- Faults of a file are no syntax errors. -/
theorem ReadFault.isParsing_trouble (fault : ReadFault) (p : Path) :
    (fault.trouble p).isParsing = false := by
  cases fault <;> rfl

namespace Session

/-- Making a grammar ready is reported at the lowest level, if it is reported. -/
theorem exists_events_prepare (s : Session) (language : String) :
    ∃ added, (s.prepare language).events = s.events ++ added ∧ ∀ e ∈ added, e.level = .debug := by
  unfold prepare
  split
  · exact ⟨[], (List.append_nil _).symm, by simp⟩
  · exact ⟨[.grammarReady language], rfl, by simp [Event.level]⟩

end Session

namespace Run

variable {α β : Type}

/-! ## Two steps -/

theorem bind_of_ok {run : Run α} {next : α → Run β} {s s' : Session} {a : α}
    (h : run s = .ok a s') : (run >>= next) s = next a s' := by
  show EStateM.bind run next s = _
  rw [EStateM.bind, h]

theorem bind_of_error {run : Run α} {next : α → Run β} {s s' : Session} {e : Trouble}
    (h : run s = .error e s') : (run >>= next) s = .error e s' := by
  show EStateM.bind run next s = _
  rw [EStateM.bind, h]

/-! ## The parts of an analysis -/

/-- Opens a file: its language and its tree. -/
def openSource (fs : FileSystem) (settings : Settings) (p : Path) : Run (String × Node) := do
  let language ← languageOf p
  let limit ← match settings.maxFileBytes with
    | .ok n => pure n
    | .error u => throw (.uncaught u)
  let source ← readSource fs p limit
  let tree ← requestTree language source
  return (language, tree)

/-- Opens one file of several.  Directories are refused. -/
def openFile (fs : FileSystem) (settings : Settings) (p : Path) : Run (String × Node) :=
  match fs.look p with
  | .refused e => throw ((ReadFault.refused e).trouble p)
  | .found (.directory _) => throw (ReadFault.directory.trouble p)
  | _ => openSource fs settings p

/-- Inspects a tree and analyses it. -/
def judge (settings : Settings) (path language : String) (tree : Node) : Run Analysis := do
  inspect settings path language tree
  analyzeTree settings path language tree

theorem analyzeFile_eq (fs : FileSystem) (settings : Settings) (p : Path) :
    analyzeFile fs settings p =
      openSource fs settings p >>= fun opened => judge settings p.text opened.1 opened.2 := by
  unfold analyzeFile openSource analyzeSource judge
  cases settings.maxFileBytes <;> simp only [bind_assoc, pure_bind]

/-- The analysis of one file of several opens the file and judges its tree. -/
theorem analyzePath_eq (fs : FileSystem) (settings : Settings) (p : Path) :
    analyzePath fs settings p =
      openFile fs settings p >>= fun opened => judge settings p.text opened.1 opened.2 := by
  unfold analyzePath openFile
  cases fs.look p with
  | missing => exact analyzeFile_eq fs settings p
  | refused e => rfl
  | found entry =>
    cases entry with
    | directory _ => rfl
    | regular _ _ | special _ => exact analyzeFile_eq fs settings p

theorem analyzePath_of_opened {fs : FileSystem} {settings : Settings} {p : Path}
    {language : String} {tree : Node} {s s' : Session}
    (h : openFile fs settings p s = .ok (language, tree) s') :
    analyzePath fs settings p s = judge settings p.text language tree s' := by
  rw [analyzePath_eq, bind_of_ok h]

theorem analyzePath_of_not_opened {fs : FileSystem} {settings : Settings} {p : Path} {e : Trouble}
    {s s' : Session} (h : openFile fs settings p s = .error e s') :
    analyzePath fs settings p s = .error e s' := by
  rw [analyzePath_eq, bind_of_error h]

/-! ## Opening -/

/-- The tree that answers the next request. -/
def nextTree (s : Session) : Node := s.supply.head?.getD emptyProgram

/-- The session after a file has been opened: it was read, its grammar was made ready, and its tree
was asked for. -/
def afterOpening (p : Path) (size : Nat) (language source : String) (s : Session) : Session :=
  (((s.report (.sourceRead p.text size)).prepare language).request language source).2

theorem exists_events_afterOpening (p : Path) (size : Nat) (language source : String)
    (s : Session) : ∃ added, (afterOpening p size language source s).events = s.events ++ added ∧
      ∀ e ∈ added, e.level = .debug := by
  obtain ⟨added, hadded, hlevel⟩ :=
    (s.report (.sourceRead p.text size)).exists_events_prepare language
  refine ⟨.sourceRead p.text size :: added, ?_, ?_⟩
  · show ((s.report (.sourceRead p.text size)).prepare language).events = _
    rw [hadded, Session.report, List.append_assoc, List.singleton_append]
  · intro e he
    rcases List.mem_cons.mp he with rfl | he
    · rfl
    · exact hlevel e he

theorem readSource_of_ok {fs : FileSystem} {p : Path} {limit : Int} {source : String} {size : Nat}
    (h : fs.readSource p limit = .ok (source, size)) (s : Session) :
    readSource fs p limit s = .ok source (s.report (.sourceRead p.text size)) := by
  rw [readSource, h]
  rfl

theorem readSource_of_error {fs : FileSystem} {p : Path} {limit : Int} {fault : ReadFault}
    (h : fs.readSource p limit = .error fault) (s : Session) :
    readSource fs p limit s = .error (fault.trouble p) s := by
  rw [readSource, h]
  rfl

/-- A request in a language that has a grammar is answered with the next tree. -/
theorem requestTree_eq (l : Language) (source : String) (s : Session) :
    requestTree l.name source s =
      .ok (nextTree s) ((s.prepare l.name).request l.name source).2 := by
  have hprepare : prepare l.name s = .ok () (s.prepare l.name) := by
    rw [prepare, Language.ofName?_name]
    rfl
  have hanswer : ((s.prepare l.name).request l.name source).1 = nextTree s := by
    rw [Session.request, s.supply_prepare l.name]
    rfl
  rw [requestTree, bind_of_ok hprepare, ← hanswer]
  rfl

/-- Where the language is known and there is a limit, all depends on whether there is a text. -/
theorem openSource_eq {fs : FileSystem} {settings : Settings} {p : Path} {l : Language}
    {limit : Int} (hlanguage : Language.ofPath? p = some l)
    (hlimit : settings.maxFileBytes = .ok limit) (s : Session) :
    openSource fs settings p s =
      match fs.readSource p limit with
      | .error fault => .error (fault.trouble p) s
      | .ok (source, size) =>
          .ok (l.name, nextTree s) (afterOpening p size l.name source s) := by
  unfold openSource languageOf
  rw [hlanguage, hlimit]
  show (readSource fs p limit >>= fun source =>
    requestTree l.name source >>= fun tree => pure (l.name, tree)) s = _
  cases hread : fs.readSource p limit with
  | error fault => rw [bind_of_error (readSource_of_error hread s)]
  | ok read =>
    obtain ⟨source, size⟩ := read
    rw [bind_of_ok (readSource_of_ok hread s), bind_of_ok (requestTree_eq l source _)]
    rfl

/-- What opening a file comes to: a trouble that is no syntax error, or the next tree. -/
inductive Opening (p : Path) (s : Session) :
    EStateM.Result Trouble Session (String × Node) → Prop
  | failed {e : Trouble} {s' : Session} (noSyntax : e.isParsing = false) :
      Opening p s (.error e s')
  | opened (language source : String) (size : Nat) :
      Opening p s (.ok (language, nextTree s) (afterOpening p size language source s))

theorem opening_openSource (fs : FileSystem) (settings : Settings) (p : Path) (s : Session) :
    Opening p s (openSource fs settings p s) := by
  cases hlanguage : Language.ofPath? p with
  | none =>
    unfold openSource languageOf
    rw [hlanguage]
    exact .failed rfl
  | some l =>
    cases hlimit : settings.maxFileBytes with
    | error u =>
      unfold openSource languageOf
      rw [hlanguage, hlimit]
      exact .failed rfl
    | ok limit =>
      rw [openSource_eq hlanguage hlimit]
      split
      · exact .failed (ReadFault.isParsing_trouble _ p)
      · exact .opened l.name _ _

theorem opening_openFile (fs : FileSystem) (settings : Settings) (p : Path) (s : Session) :
    Opening p s (openFile fs settings p s) := by
  unfold openFile
  cases fs.look p with
  | missing => exact opening_openSource fs settings p s
  | refused e => exact .failed ((ReadFault.refused e).isParsing_trouble p)
  | found entry =>
    cases entry with
    | directory _ => exact .failed (ReadFault.directory.isParsing_trouble p)
    | regular _ _ | special _ => exact opening_openSource fs settings p s

/-- A source in a known language is opened. -/
theorem openFile_of_source {fs : FileSystem} {settings : Settings} {p : Path} {l : Language}
    {limit : Int} {source : String} {size : Nat} (hlanguage : Language.ofPath? p = some l)
    (hlimit : settings.maxFileBytes = .ok limit)
    (hread : fs.readSource p limit = .ok (source, size)) (s : Session) : openFile fs settings p s =
      .ok (l.name, nextTree s) (afterOpening p size l.name source s) := by
  have hopen : openFile fs settings p = openSource fs settings p := by
    unfold openFile
    unfold FileSystem.readSource at hread
    split
    · rename_i hlook
      rw [hlook] at hread
      cases hread
    · rename_i hlook
      rw [hlook] at hread
      cases hread
    · rfl
  rw [hopen, openSource_eq hlanguage hlimit, hread]

section

variable {fs : FileSystem} {settings : Settings} {p : Path} {language : String} {tree : Node}
  {s s' : Session}

theorem tree_of_opened (h : openFile fs settings p s = .ok (language, tree) s') :
    tree = nextTree s := by
  have hopening := opening_openFile fs settings p s
  rw [h] at hopening
  cases hopening
  rfl

/-- Opening a file is reported at the lowest level only. -/
theorem exists_events_of_opened (h : openFile fs settings p s = .ok (language, tree) s') :
    ∃ added, s'.events = s.events ++ added ∧ ∀ e ∈ added, e.level = .debug := by
  have hopening := opening_openFile fs settings p s
  rw [h] at hopening
  cases hopening with
  | opened _ source size => exact exists_events_afterOpening p size language source s

end

/-! ## Judging -/

/-- The session after a tree has been analysed. -/
def afterAnalysis (settings : Settings) (path language : String) (tree : Node) (s : Session) :
    Session :=
  let (a, events) := (Cursor.root tree).analyze path language settings.importCallee
  { s with events := s.events ++ events }.report
    (.analysed path a.functions.size a.file.packageComplexity a.file.strings)

theorem analyzeTree_eq (settings : Settings) (path language : String) (tree : Node)
    (s : Session) : analyzeTree settings path language tree s =
      .ok ((Cursor.root tree).analyze path language settings.importCallee).1
        (afterAnalysis settings path language tree s) := rfl

/-- A sound tree is analysed. -/
theorem judge_sound {tree : Node} (hsound : tree.damagedLine? = none) (settings : Settings)
    (path language : String) (s : Session) :
    judge settings path language tree s = analyzeTree settings path language tree s := by
  have hinspect : inspect settings path language tree s = .ok () s := by
    rw [inspect, hsound]
    rfl
  exact bind_of_ok hinspect

/-- A damaged tree is refused where damage is not tolerated. -/
theorem judge_refused {settings : Settings} {tree : Node} {line : Nat}
    (hstrict : settings.isTolerant = false) (hdamage : tree.damagedLine? = some line)
    (path language : String) (s : Session) :
    judge settings path language tree s = .error (.reported (.parsing (Path.ofString path).text
      language s!"syntax error near line {line}")) s := by
  apply bind_of_error
  rw [inspect, hdamage, hstrict]
  rfl

/-- A damaged tree is reported and analysed where damage is tolerated. -/
theorem judge_recovered {settings : Settings} {tree : Node} {line : Nat}
    (htolerant : settings.isTolerant = true) (hdamage : tree.damagedLine? = some line)
    (path language : String) (s : Session) :
    judge settings path language tree s =
      analyzeTree settings path language tree (s.report (.recovered path line)) := by
  have hinspect :
      inspect settings path language tree s = .ok () (s.report (.recovered path line)) := by
    rw [inspect, hdamage, htolerant]
    rfl
  exact bind_of_ok hinspect

/-- Whatever is made of its damage, a tree that comes to an analysis has the analysis it has by
itself, and no further tree is asked for. -/
theorem judge_ok {settings : Settings} {path language : String} {tree : Node} {s s' : Session}
    {a : Analysis} (h : judge settings path language tree s = .ok a s') :
    a = ((Cursor.root tree).analyze path language settings.importCallee).1 ∧
      s'.supply = s.supply := by
  cases hdamage : tree.damagedLine? with
  | none =>
    rw [judge_sound hdamage, analyzeTree_eq] at h
    cases h
    exact ⟨rfl, rfl⟩
  | some line =>
    cases htolerant : settings.isTolerant with
    | false =>
      rw [judge_refused htolerant hdamage] at h
      cases h
    | true =>
      rw [judge_recovered htolerant hdamage, analyzeTree_eq] at h
      cases h
      exact ⟨rfl, rfl⟩

/-! ## Several files -/

theorem supply_afterOpening (p : Path) (size : Nat) (language source : String) (s : Session) :
    (afterOpening p size language source s).supply = s.supply.tail :=
  congrArg List.tail ((s.report (.sourceRead p.text size)).supply_prepare language)

/-- An analysis of a file is that of the next tree, which it takes from the supply. -/
theorem analyzePath_ok {fs : FileSystem} {settings : Settings} {p : Path} {s s' : Session}
    {a : Analysis} (h : analyzePath fs settings p s = .ok a s') :
    (∃ language, a =
      ((Cursor.root (nextTree s)).analyze p.text language settings.importCallee).1) ∧
      s'.supply = s.supply.tail := by
  have hopening := opening_openFile fs settings p s
  generalize hopen : openFile fs settings p s = opened at hopening
  cases hopening with
  | failed noSyntax =>
    rw [analyzePath_of_not_opened hopen] at h
    cases h
  | opened language source size =>
    rw [analyzePath_of_opened hopen] at h
    obtain ⟨ha, hsupply⟩ := judge_ok h
    exact ⟨⟨language, ha⟩, hsupply.trans (supply_afterOpening p size language source s)⟩

/-- The trees that answer the next requests: those of a supply, and empty ones beyond it. -/
def answers (supply : List Node) : Nat → List Node
  | 0 => []
  | n + 1 => supply.head?.getD emptyProgram :: answers supply.tail n

theorem length_answers (supply : List Node) (n : Nat) : (answers supply n).length = n := by
  induction n generalizing supply with
  | zero => rfl
  | succ n ih => rw [answers, List.length_cons, ih]

/-- The analyses of several files are those of the trees that answer the requests, file by file. -/
theorem analyzePaths_ok {fs : FileSystem} {settings : Settings} {paths : List Path}
    {s s' : Session} {analyses : List Analysis}
    (h : analyzePaths fs settings paths s = .ok analyses s') :
    analyses.map (fun a => (a.file.path, a.functions)) =
      (paths.zip (answers s.supply paths.length)).map (fun e =>
        (e.1.text, ((Cursor.root e.2).scan settings.importCallee).functions)) := by
  -- every file takes one tree, so those behind it start with the rest of the supply
  induction paths generalizing s analyses with
  | nil =>
    cases h
    rfl
  | cons p rest ih =>
    rw [analyzePaths_cons] at h
    cases hfirst : analyzePath fs settings p s with
    | error e t =>
      rw [hfirst] at h
      cases h
    | ok a t =>
      rw [hfirst] at h
      change consAnalysis a (analyzePaths fs settings rest t) = _ at h
      obtain ⟨⟨language, ha⟩, hsupply⟩ := analyzePath_ok hfirst
      cases hrest : analyzePaths fs settings rest t with
      | error e t' =>
        rw [hrest] at h
        cases h
      | ok others t' =>
        rw [hrest] at h
        cases h
        have htail := ih hrest
        rw [hsupply] at htail
        rw [List.map_cons, htail, ha]
        rfl

/-- There is an analysis of every file, in the order of the files. -/
theorem paths_of_analyzePaths {fs : FileSystem} {settings : Settings} {paths : List Path}
    {s s' : Session} {analyses : List Analysis}
    (h : analyzePaths fs settings paths s = .ok analyses s') :
    analyses.map (·.file.path) = paths.map Path.text := by
  let trees := answers s.supply paths.length
  have hlength : paths.length ≤ trees.length := Nat.le_of_eq (length_answers _ _).symm
  have hfirst := congrArg (List.map Prod.fst) (analyzePaths_ok h)
  rw [List.map_map, List.map_map] at hfirst
  calc
    analyses.map (·.file.path) = (paths.zip trees).map (fun e => e.1.text) := hfirst
    _ = ((paths.zip trees).map Prod.fst).map Path.text := by rw [List.map_map]; rfl
    _ = paths.map Path.text := by rw [List.map_fst_zip hlength]

/-- The records of the functions are those of the trees that answer the requests. -/
theorem functions_of_analyzePaths {fs : FileSystem} {settings : Settings} {paths : List Path}
    {s s' : Session} {analyses : List Analysis}
    (h : analyzePaths fs settings paths s = .ok analyses s') :
    analyses.map (·.functions) = (answers s.supply paths.length).map (fun t =>
      ((Cursor.root t).scan settings.importCallee).functions) := by
  let trees := answers s.supply paths.length
  let scanned (t : Node) := ((Cursor.root t).scan settings.importCallee).functions
  have hlength : trees.length ≤ paths.length := Nat.le_of_eq (length_answers _ _)
  have hsecond := congrArg (List.map Prod.snd) (analyzePaths_ok h)
  rw [List.map_map, List.map_map] at hsecond
  calc
    analyses.map (·.functions) = (paths.zip trees).map (fun e => scanned e.2) := hsecond
    _ = ((paths.zip trees).map Prod.snd).map scanned := by rw [List.map_map]; rfl
    _ = trees.map scanned := by rw [List.map_snd_zip hlength]

end Run

end CodeMetrics
