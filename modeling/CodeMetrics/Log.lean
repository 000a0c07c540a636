import CodeMetrics.Metrics.Record

/-!
# The log

A run reports what it does as events.  Each event has a level, the channel of
the part of the program that reports it, and a wording.

* `Level` — how much an event matters;
* `Event` — everything that a run reports;
* `LogLine` — an event or a caller's own message as it is written;
* `LogSetup` — what is let through, chosen by the two flags `verbose` and `quiet`;
* `LogThresholds` — what is let through on which channel.
-/

namespace CodeMetrics

/-- How much a log line matters. -/
inductive Level where
  | debug
  | info
  | warning
  | error
  | critical
deriving Repr, DecidableEq, Inhabited

namespace Level

/-- The levels from least to most. -/
def rank : Level → Nat
  | debug => 10
  | info => 20
  | warning => 30
  | error => 40
  | critical => 50

/-- The written name of a level. -/
def name : Level → String
  | debug => "DEBUG"
  | info => "INFO"
  | warning => "WARNING"
  | error => "ERROR"
  | critical => "CRITICAL"

/-- The level with a given written name. -/
def ofName? (s : String) : Option Level :=
  [debug, info, warning, error, critical].find? (·.name == s)

end Level

/-! ## Channels -/

namespace Channel

/-- The channel above all others. -/
def root : String := "js_complexity"

/-- The channel for a name: the root if none is given, a name that starts like the root as it
stands, and any other name below the root. -/
def ofName : Option String → String
  | none => root
  | some name => if name.startsWith root then name else root ++ "." ++ name

/-- Whether a channel is the root or lies below it. -/
def isWithinRoot (channel : String) : Bool :=
  channel == root || channel.startsWith (root ++ ".")

end Channel

/-- One line of the log. -/
structure LogLine where
  level : Level
  channel : String
  message : String
deriving Repr, DecidableEq, Inhabited

/-! ## Events -/

/-- What a run reports. -/
inductive Event where
  /-- A grammar was made ready for use. -/
  | grammarReady (language : String)
  /-- A file was read. -/
  | sourceRead (path : String) (bytes : Nat)
  /-- A function has a longer member chain outside its body than inside. -/
  | chainOutsideBody (name : String) (whole body : Nat)
  /-- A declaration takes the place of an earlier one of the same name. -/
  | replaced (name : String) (line previous : Int)
  /-- A function was measured. -/
  | collected (record : FunctionRecord)
  /-- A damaged tree is analysed all the same. -/
  | recovered (path : String) (line : Nat)
  /-- A file was analysed. -/
  | analysed (path : String) (functions : Nat) (imports strings : Int)
  /-- A run over some files begins. -/
  | started (files : Nat)
  /-- A run ended with an error. -/
  | aborted
deriving Repr, DecidableEq, Inhabited

namespace Event

/-- The level of an event. -/
def level : Event → Level
  | grammarReady _ => .debug
  | sourceRead _ _ => .debug
  | chainOutsideBody _ _ _ => .debug
  | replaced _ _ _ => .debug
  | collected _ => .debug
  | recovered _ _ => .warning
  | analysed _ _ _ _ => .info
  | started _ => .info
  | aborted => .debug

/-- The channel that an event is reported on. -/
def channel : Event → String
  | grammarReady _ => Channel.root ++ ".scanning.treesitter_parser"
  | sourceRead _ _ => Channel.root ++ ".scanning.source"
  | chainOutsideBody _ _ _ => Channel.root ++ ".analysis.collectors"
  | replaced _ _ _ => Channel.root ++ ".analysis.collectors"
  | collected _ => Channel.root ++ ".analysis.collectors"
  | recovered _ _ => Channel.root ++ ".analysis.engine"
  | analysed _ _ _ _ => Channel.root ++ ".analysis.engine"
  | started _ => Channel.root ++ ".api"
  | aborted => Channel.root

/-- The wording of an event. -/
def message : Event → String
  | grammarReady language => s!"Initialised tree-sitter grammar: {language}"
  | sourceRead path bytes => s!"Read {path} ({bytes} bytes)"
  | chainOutsideBody name whole body =>
      s!"{name}: member chain of {whole} outside the body ignored, body has {body}"
  | replaced name line previous =>
      s!"{name} at line {line} replaces the declaration at line {previous}"
  | collected record => "Collected " ++ record.display
  | recovered path line => s!"{path}: syntax error near line {line}, analysing recovered tree"
  | analysed path functions imports strings =>
      s!"{path}: {functions} functions, {imports} imports, {strings} strings"
  | started files => s!"Analysing {files} file(s)"
  | aborted => "Analysis aborted"

/-- The event as a line of the log. -/
def line (e : Event) : LogLine := ⟨e.level, e.channel, e.message⟩

end Event

/-! ## What is let through -/

/-- The settings of the log: the least level let through and how lines are laid out. -/
structure LogSetup where
  level : Level
  /-- Whether lines name the place in the program that wrote them. -/
  showPath : Bool
  /-- Whether tracebacks list local values. -/
  showLocals : Bool
  showTime : Bool := true
  fullTracebacks : Bool := true
  markup : Bool := false
deriving Repr, DecidableEq, Inhabited

namespace LogSetup

/-- The settings for the two flags; `quiet` wins over `verbose` where they disagree. -/
def ofFlags (verbose quiet : Bool) : LogSetup where
  level := if quiet then .error else if verbose then .debug else .warning
  showPath := verbose
  showLocals := verbose

/-- Whether a level is let through. -/
def admits (threshold : Level) (level : Level) : Bool := threshold.rank ≤ level.rank

/-- The lines of the events that are let through, in order. -/
def lines (threshold : Level) (events : List Event) : List LogLine :=
  (events.filter (fun e => admits threshold e.level)).map Event.line

end LogSetup

/-- The least levels let through: on the root channel and below it, and on any other channel. -/
structure LogThresholds where
  within : Level := .debug
  outside : Level := .warning
deriving Repr, DecidableEq, Inhabited

namespace LogThresholds

/-- The thresholds after the log has been set up: one level for all channels. -/
def ofSetup (s : LogSetup) : LogThresholds := ⟨s.level, s.level⟩

/-- Whether a level is let through on a channel. -/
def admits (t : LogThresholds) (channel : String) (level : Level) : Bool :=
  LogSetup.admits (if Channel.isWithinRoot channel then t.within else t.outside) level

/-- What comes of a message on a channel. -/
def lines (t : LogThresholds) (l : LogLine) : List LogLine :=
  if t.admits l.channel l.level then [l] else []

end LogThresholds

end CodeMetrics
