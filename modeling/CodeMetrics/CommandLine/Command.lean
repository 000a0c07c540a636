import CodeMetrics.Report.Basic
import CodeMetrics.Session.Analyze

/-!
# The command

The command loads its settings, analyses the files, prints the report and
holds the result against the complexity gate.  What its words mean is told by a
reader of command lines, and what it prints is drawn by a console.

* `Request` — the options and files that a command line asks for;
* `Frontend` — a reader of command lines and a console;
* `CommandOutcome` — what a run of the command leaves behind;
* `Command.execute` — the run of a request;
* `Command.run` — the run of a command line.
-/

namespace CodeMetrics

/-- What a command line asks for.  An option that is not given has no value. -/
structure Request where
  files : List Path
  format? : Option String := none
  tolerant? : Option Bool := none
  failAbove? : Option Int := none
  config? : Option Path := none
  verbose : Bool := false
  quiet : Bool := false
deriving Repr, DecidableEq, Inhabited

/-- What the options override. -/
def Request.overrides (r : Request) : List (String × Value) :=
  [(Field.outputFormat.key, (r.format?.map Value.text).getD .null),
   (Field.tolerant.key, (r.tolerant?.map Value.bool).getD .null),
   (Field.failAbove.key, (r.failAbove?.map Value.int).getD .null),
   ("verbose", .bool r.verbose),
   ("quiet", .bool r.quiet)]

/-- What a run of the command leaves behind. -/
structure CommandOutcome where
  exitCode : Nat
  stdout : String := ""
  stderr : String := ""
  log : List LogLine := []
  /-- A condition that ended the run as it was. -/
  raised? : Option Uncaught := none
deriving Inhabited

/-- What a reader of command lines makes of a list of words. -/
inductive Reading where
  /-- The reader has answered by itself: the words make no sense, or they ask for help. -/
  | answered (o : CommandOutcome)
  | version
  | request (r : Request)

/-- What stands between a run and the one who started it. -/
structure Frontend where
  /-- What words mean on a machine with some files. -/
  read : FileSystem → List String → Reading
  console : Console

namespace Command

/-- The line that tells the version. -/
def versionLine : String := "js-complexity 0.1.0\n"

/-- An outcome with a line of markup on the error stream.  If the line cannot be drawn, the run ends
with that. -/
def withLine (console : Console) (o : CommandOutcome) (markup : String) : CommandOutcome :=
  match console.line markup with
  | .ok line => { o with stderr := line }
  | .error u => { o with raised? := some u }

/-- A line for the error stream: a coloured head and a message. -/
def errorLine (console : Console) (head message : String) : String :=
  s!"[red]{head}[/red] " ++ console.escape message

/-- The highest complexity of all analyses, and zero if there are none. -/
def worstComplexity (analyses : List Analysis) : Int :=
  match analyses.map Analysis.maxComplexity with
  | [] => 0
  | first :: rest => rest.foldl max first

/-- The line that tells by how much the gate was missed. -/
def gateLine (worst : Int) (gate : Quantity) : String :=
  s!"[red]Cyclomatic complexity {worst} exceeds --fail-above {gate.display}[/red]"

/-- The outcome of a run in which every file was analysed. -/
def finish (console : Console) (settings : Settings) (analyses : List Analysis)
    (log : List LogLine) : CommandOutcome :=
  let report := Report.printed console settings.outputFormat analyses
  let worst := worstComplexity analyses
  match report.fault? with
  | some u => { exitCode := 1, stdout := report.text, log, raised? := some u }
  | none =>
      match settings.failAbove with
      | some gate =>
          if settings.exceedsGate worst then
            withLine console { exitCode := 1, stdout := report.text, log } (gateLine worst gate)
          else { exitCode := 0, stdout := report.text, log }
      | none => { exitCode := 0, stdout := report.text, log }

/-- The run of a request with a supply of trees. -/
def execute (console : Console) (around : Surroundings) (r : Request) (supply : List Node) :
    CommandOutcome :=
  match Settings.load around r.config? r.overrides with
  | .error (.reported f) =>
      withLine console { exitCode := 1 } (errorLine console "Configuration error:" f.text)
  | .error (.uncaught u) => { exitCode := 1, raised? := some u }
  | .ok settings =>
      let lines (events : List Event) := LogSetup.lines settings.logSetup.level events
      match Run.analyzePaths around.files settings r.files { supply } with
      | .ok analyses s => finish console settings analyses (lines s.events)
      | .error (.reported f) s =>
          withLine console { exitCode := 1, log := lines (s.report .aborted).events }
            (errorLine console "Error:" f.text)
      | .error (.uncaught u) s => { exitCode := 1, log := lines s.events, raised? := some u }

/-- The run of a command line. -/
def run (frontend : Frontend) (around : Surroundings) (words : List String)
    (supply : List Node) : CommandOutcome :=
  match frontend.read around.files words with
  | .answered o => o
  | .version => { exitCode := 0, stdout := versionLine }
  | .request r => execute frontend.console around r supply

end Command

end CodeMetrics
