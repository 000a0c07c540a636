import CodeMetrics.Metrics.Result
import CodeMetrics.Session.Source
import CodeMetrics.Settings.Load
import CodeMetrics.Tree.Damage

/-!
# Analysing sources and files

* `Run.analyzeSource` — the analysis of a text under a label;
* `Run.analyzeSnippet` — the same for a text of which the language may be unknown;
* `Run.analyzeFile` — the analysis of one file;
* `Run.analyzePaths` — the analyses of several files; the first trouble ends the run;
* `Run.analyzeAs` — the same, with settings of its own.
-/

namespace CodeMetrics.Run

/-- The language of a file, by its ending. -/
def languageOf (p : Path) : Run String :=
  match Language.ofPath? p with
  | some l => pure l.name
  | none =>
      let shown := if p.suffix.isEmpty then p.name else p.suffix
      fail (.unsupportedLanguage shown Language.supported (some p.text))

/-- Refuses a damaged tree, or reports it where damage is tolerated. -/
def inspect (settings : Settings) (path language : String) (tree : Node) : Run Unit :=
  match tree.damagedLine? with
  | none => pure ()
  | some line =>
      if settings.isTolerant then report (.recovered path line)
      else
        fail (.parsing (Path.ofString path).text language s!"syntax error near line {line}")

/-- The analysis of a tree as a file, reported. -/
def analyzeTree (settings : Settings) (path language : String) (tree : Node) : Run Analysis := do
  let (a, events) := (Cursor.root tree).analyze path language settings.importCallee
  modify fun s => { s with events := s.events ++ events }
  report (.analysed path a.functions.size a.file.packageComplexity a.file.strings)
  return a

/-- The analysis of a text under the label `path`.  Without a language, the label tells it. -/
def analyzeSource (settings : Settings) (source path : String) (language? : Option String) :
    Run Analysis := do
  let language ← match language? with
    | some l => pure l
    | none => languageOf (Path.ofString path)
  let tree ← requestTree language source
  inspect settings path language tree
  analyzeTree settings path language tree

/-- The label of a text without one. -/
def defaultLabel : String := "<source>"

/-- The analysis of a text by a run of its own.  If neither the caller nor the label tells the
language, it is taken to be JavaScript. -/
def analyzeSnippet (settings : Settings) (source path : String) (language? : Option String) :
    Run Analysis :=
  let language? :=
    match language?, Language.ofPath? (Path.ofString path) with
    | none, none => some Language.javascript.name
    | l, _ => l
  afresh (analyzeSource settings source path language?)

/-- The analysis of one file. -/
def analyzeFile (fs : FileSystem) (settings : Settings) (p : Path) : Run Analysis := do
  let language ← languageOf p
  let limit ← match settings.maxFileBytes with
    | .ok n => pure n
    | .error u => throw (.uncaught u)
  let source ← readSource fs p limit
  analyzeSource settings source p.text (some language)

/-- The analysis of one file of several; directories are refused. -/
def analyzePath (fs : FileSystem) (settings : Settings) (p : Path) : Run Analysis :=
  match fs.look p with
  | .refused e => throw ((ReadFault.refused e).trouble p)
  | .found (.directory _) => throw (ReadFault.directory.trouble p)
  | _ => analyzeFile fs settings p

/-- The analyses of several files in order, or the first trouble. -/
def analyzePaths (fs : FileSystem) (settings : Settings) : List Path → Run (List Analysis)
  | [] => pure []
  | p :: rest => do
      let a ← analyzePath fs settings p
      return a :: (← analyzePaths fs settings rest)

end CodeMetrics.Run

namespace CodeMetrics

/-- How a run is logged under some settings. -/
def Settings.logSetup (s : Settings) : LogSetup :=
  LogSetup.ofFlags (s.verbosity = .verbose) (s.verbosity = .quiet)

/-- What a run over files comes to. -/
structure RunOutcome where
  answer : Except Trouble (List Analysis)
  session : Session
  /-- The lines of the log that are let through. -/
  log : List LogLine

/-- The outcome of a computation that starts in a session. -/
def Run.outcome (run : Run (List Analysis)) (s : Session) (threshold : Level) : RunOutcome :=
  match run s with
  | .ok analyses s => ⟨.ok analyses, s, LogSetup.lines threshold s.events⟩
  | .error t s => ⟨.error t, s, LogSetup.lines threshold s.events⟩

/-- The settings of a call that also names the files. -/
def Settings.loadFor (around : Surroundings) (file? : Option Path)
    (overrides : List (String × Value)) : Except Trouble Settings := do
  refuseFileKey "js_complexity.api.analyze" overrides
  if overrides.any (·.1 == "paths") then throw (.uncaught (.doubledArgument "analyze" "paths"))
  load around file? overrides

/-- Loads settings, then analyses files under them. -/
def Run.analyzeAs (around : Surroundings) (file? : Option Path)
    (overrides : List (String × Value)) (paths : List Path) (s : Session) : RunOutcome :=
  match Settings.loadFor around file? overrides with
  | .error t => ⟨.error t, s, []⟩
  | .ok settings =>
      let run : Run (List Analysis) := do
        report (.started paths.length)
        analyzePaths around.files settings paths
      run.outcome s settings.logSetup.level

end CodeMetrics
