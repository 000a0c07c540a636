import CodeMetrics.Files.Disk
import CodeMetrics.Settings.Environment
import CodeMetrics.Toml.Document

/-!
# Layers of settings

Settings come in layers, each of which overrides the ones before it: the
defaults, a file in the home directory, a file in the working directory, a
file named by the caller, the environment, and the caller's own overrides.

* `Surroundings` — the machine that a run finds itself on, with the `Runtime` of the program;
* `Settings.fileLayer` — the values that a settings file gives;
* `Settings.overrideLayer` — the values that a caller gives;
* `Settings.load` — the settings that all layers amount to.
-/

namespace CodeMetrics

/-- What the runtime of a program settles for it. -/
structure Runtime where
  /-- The levels that arrays and tables of a settings file can take inside one another. -/
  tomlLevels : Nat
  /-- The levels that values can take inside a value that is shown. -/
  shownLevels : Nat
  /-- What is wrong with a text that is not TOML, in words. -/
  tomlReason : String → String

/-- The machine that a run finds itself on. -/
structure Surroundings where
  files : FileSystem
  home : Path
  cwd : Path
  env? : String → Option String
  runtime : Runtime

namespace Settings

/-- The name of settings files. -/
def fileName : String := "js-complexity.toml"

/-- The settings file of the home directory. -/
def homeFile (around : Surroundings) : Path := around.home.child ("." ++ fileName)

/-- The settings file of the working directory. -/
def projectFile (around : Surroundings) : Path := around.cwd.child fileName

/-- The trouble of a settings file that cannot be read or is not TOML. -/
def badFile (p : Path) (reason : String) : Trouble :=
  .reported (.configuration s!"Invalid config file '{p.text}': {reason}")

/-- The values that a settings file gives, from what stands at its path. -/
def entryLayer (runtime : Runtime) (p : Path) (e : Entry) : Except Trouble (OrderedTable Value) :=
  match e.content with
  | .error refusal => .error (badFile p refusal.text)
  | .ok bytes =>
      match Utf8.decode bytes with
      | .error fault => .error (.uncaught (.notUtf8 fault))
      | .ok text =>
          match Toml.read runtime.tomlLevels text with
          | .error .malformed => .error (badFile p (runtime.tomlReason text))
          | .error (.numeralTooLong digits) => .error (.uncaught (.numeralTooLong digits))
          | .error .tooDeep => .error (.uncaught .tooDeep)
          | .ok entries => .ok ⟨entries⟩

/-- The values of a settings file that need not be there. -/
def fileLayer (around : Surroundings) (p : Path) : Except Trouble (OrderedTable Value) :=
  match around.files.look p with
  | .missing => .ok {}
  | .refused e => .error (.uncaught (.os e))
  | .found e => entryLayer around.runtime p e

/-- The values of a settings file that the caller names, if any. -/
def namedLayer (around : Surroundings) : Option Path → Except Trouble (OrderedTable Value)
  | none => .ok {}
  | some p =>
      match around.files.look p with
      | .missing => .error (.reported (.configuration s!"Config file not found: {p.text}"))
      | .refused e => .error (.uncaught (.os e))
      | .found e => entryLayer around.runtime p e

/-- Takes a flag out of a caller's overrides; if it was set, it stands for a verbosity. -/
def applyFlag (flag : String) (v : Verbosity) (t : OrderedTable Value) : OrderedTable Value :=
  let set := ((t.get? flag).map Value.truthy).getD false
  let t := t.erase flag
  if set then t.insert Field.verbosity.key (.text v.name) else t

/-- The values that a caller gives: the flags `verbose` and `quiet` stand for a verbosity, `quiet`
winning, and what has no value is left out. -/
def overrideLayer (overrides : List (String × Value)) : OrderedTable Value :=
  let t := OrderedTable.ofList overrides
  let t := applyFlag "quiet" .quiet (applyFlag "verbose" .verbose t)
  ⟨t.entries.filter (fun e => !e.2.isNull)⟩

/-- The table that all layers amount to. -/
def merged (around : Surroundings) (file? : Option Path) (overrides : List (String × Value)) :
    Except Trouble (OrderedTable Value) := do
  let home ← fileLayer around (homeFile around)
  let project ← fileLayer around (projectFile around)
  let named ← namedLayer around file?
  let environment ← (Environment.layer around.env?).mapError .reported
  return (((home.update project).update named).update environment).update
    (overrideLayer overrides)

/-- The failure of the configuration that carries the wording of a trouble. -/
def wrapTrouble (e : Trouble) : Trouble :=
  .reported (.configuration s!"Invalid configuration: {e.text}")

/-- Refused settings as the caller of `load` sees them: a wrong name or a value that cannot be
compared is a failure of the configuration. -/
def loadTrouble (levels : Nat) (fault : SettingsFault) : Trouble :=
  match fault with
  | .unknown _ | .ownName _ | .notComparable _ _ => wrapTrouble (fault.trouble levels)
  | .invalid _ _ _ | .noIdentifierTest _ => fault.trouble levels

/-- The name under which a caller names a settings file. -/
def fileKey : String := "config_file"

/-- Refuses overrides that name a settings file, which a call does apart from them. -/
def refuseFileKey (call : String) (overrides : List (String × Value)) : Except Trouble Unit :=
  if overrides.any (·.1 == fileKey) then .error (.uncaught (.doubledKeyword call fileKey))
  else .ok ()

/-- The settings that all layers amount to. -/
def load (around : Surroundings) (file? : Option Path) (overrides : List (String × Value)) :
    Except Trouble Settings := do
  refuseFileKey "js_complexity.config.load_config" overrides
  let t ← merged around file? overrides
  (ofTable t).mapError (loadTrouble around.runtime.shownLevels)

end Settings

end CodeMetrics
