import CodeMetrics.CommandLine.Standard
import CodeMetrics.Tree.OutlineText

/-!
# The program

The command on a real machine.  What its words name is looked up first, then
the run itself is `Command.run`.  The trees of the files come from standard
input, in the order of the files, as `Outline.trees?` reads them.

* `Program.lookUp` — what stands at a path of the machine;
* `Program.surroundings` — the machine, as far as a list of words can lead into it;
* `Program.supply?` — the trees on standard input;
* `main` — the program.
-/

namespace CodeMetrics.Program

/-- A refusal of the system, unless it says that nothing stands at the path: there may be no such
name, a file where a directory should be, or a circle of links.  Its number may come negated. -/
def refusal? (text : String) : IO.Error → Option OsError
  | .noFileOrDirectory _ _ _ | .noSuchThing _ _ _ | .inappropriateType _ _ _ => none
  | .permissionDenied _ _ _ => some (.noAccess text)
  | .invalidArgument _ code reason =>
      match min code.toNat (-code).toNat with
      | 36 => some (.nameTooLong text)
      | 40 => none
      | number => some ⟨number, reason, some text⟩
  | e => some ⟨5, toString e, some text⟩

/-- What reading a file gives. -/
def contentOf (p : Path) : IO (Except OsError ByteArray) := do
  try
    return .ok (← IO.FS.readBinFile ((← IO.currentDir) / p.text))
  catch e =>
    return .error ((refusal? p.text e).getD ⟨2, "No such file or directory", some p.text⟩)

/-- What stands at a path of the machine.  Regular files are read, and others only if they are
settings files. -/
def lookUp (isSettings : Bool) (p : Path) : IO Lookup := do
  try
    let data ← ((← IO.currentDir) / p.text).metadata
    match data.type with
    | .dir => return .found (.directory (.isDirectory p.text))
    | .file => return .found (.regular data.byteSize.toNat (← contentOf p))
    | _ =>
        if isSettings then
          return .found (.special (← contentOf p))
        return .found (.special (.ok ByteArray.empty))
  catch e =>
    return (refusal? p.text e).elim .missing .refused

/-- The machine, as far as arguments can lead into it. -/
def surroundings (a : Arguments) : IO Surroundings := do
  let environment ← Field.all.filterMapM fun f => do
    return (← IO.getEnv (Environment.nameOf f)).map (Environment.nameOf f, ·)
  let bare : Surroundings := {
    files := ⟨fun _ => .missing⟩
    home := Path.ofString ((← IO.getEnv "HOME").getD "/")
    cwd := Path.ofString (← IO.currentDir).toString
    env? := fun name => environment.lookup name
    runtime := .standard }
  let settings := a.config?.toList.map Path.ofString ++
    [Settings.homeFile bare, Settings.projectFile bare]
  let known ← settings.mapM fun p => return (p, ← lookUp true p)
  let sources ← (a.files.map Path.ofString).mapM fun p => return (p, ← lookUp false p)
  return { bare with files := ⟨fun p => ((known ++ sources).lookup p).getD .missing⟩ }

/-- All that a stream holds, behind what has been read of it. -/
partial def readAll (stream : IO.FS.Stream) (front : String) : IO String := do
  let line ← stream.getLine
  if line.isEmpty then
    return front
  readAll stream (front ++ line)

/-- The trees on standard input.  A command line that needs none leaves it alone. -/
def supply? (a : Arguments) : IO (Option (List Node)) := do
  if a.files.isEmpty || a.notice?.isSome then
    return some []
  return Outline.trees? (← readAll (← IO.getStdin) "")

/-- Writes what a run leaves behind and gives its exit code. -/
def present (o : CommandOutcome) : IO UInt32 := do
  for l in o.log do
    IO.eprintln s!"{l.level.name} {l.message}"
  IO.print o.stdout
  IO.eprint o.stderr
  if let some u := o.raised? then
    IO.eprintln u.message
  return UInt32.ofNat o.exitCode

/-- Runs the command on the words of a command line. -/
def run (words : List String) : IO UInt32 := do
  let a := (Arguments.parse words).getD {}
  let around ← surroundings a
  match ← supply? a with
  | some supply => present (Command.run .standard around words supply)
  | none =>
      IO.eprintln "Standard input holds no outline of a tree."
      return 2

end CodeMetrics.Program

/-- The program: it runs the command on its words and ends with the exit code. -/
def main (words : List String) : IO UInt32 := CodeMetrics.Program.run words
