import CodeMetrics.Proofs.CommandLine.Outcome
import CodeMetrics.Proofs.Settings.Containment

/-!
# A command whose settings are refused

A command whose settings are refused analyses nothing and ends with exit code one.

* `Command.run_of_reported` — a failure of the configuration is told in one line
  on the error stream, if the console can draw the line;
* `Command.run_of_uncaught` — the few conditions that are not reported end the
  run as they are;
* `Command.refused_settings_told` — with the list of these conditions, which
  refusals are told.
-/

namespace CodeMetrics

namespace Command

section

variable {frontend : Frontend} {around : Surroundings} {words : List String} {r : Request}

/-- A failure of the configuration is told in one line.  If the console cannot draw it, the run ends
with that. -/
theorem run_of_reported (h : Asks frontend around words r) (supply : List Node) {f : Failure}
    (hload : Settings.load around r.config? r.overrides = .error (.reported f)) :
    let markup := "[red]Configuration error:[/red] " ++ frontend.console.escape f.text
    (∀ line, frontend.console.line markup = .ok line →
      run frontend around words supply = { exitCode := 1, stderr := line }) ∧
    ∀ u, frontend.console.line markup = .error u →
      run frontend around words supply = { exitCode := 1, raised? := some u } := by
  intro markup
  have hrun : run frontend around words supply =
      withLine frontend.console { exitCode := 1 } markup := by
    rw [run_eq_execute h, execute, hload]
    rfl
  constructor
  · intro line hline
    rw [hrun, withLine, hline]
  · intro u hline
    rw [hrun, withLine, hline]

/-- A condition that is not reported ends the run without a line. -/
theorem run_of_uncaught (h : Asks frontend around words r) (supply : List Node) {u : Uncaught}
    (hload : Settings.load around r.config? r.overrides = .error (.uncaught u)) :
    run frontend around words supply = { exitCode := 1, raised? := some u } := by
  rw [run_eq_execute h, execute, hload]

end

/-- Settings that are refused are a failure of the configuration, unless the first stage of loading
that finds fault comes upon a condition listed in `Settings.Escapes`.  The command tells the failure
in one line on the error stream and ends with exit code one; the same code it ends with, but without
the line, if the console cannot draw it, and in one of these conditions. -/
theorem refused_settings_told (frontend : Frontend) (around : Surroundings) :
    (∀ (file? : Option Path) (overrides : List (String × Value)),
      (∀ f, Settings.load around file? overrides = .error (.reported f) →
        .configuration ∈ f.kind.lineage) ∧
      ∀ u, Settings.load around file? overrides = .error (.uncaught u) ↔
        ∃ before stage after, LoadStage.all = before ++ stage :: after ∧
          Settings.Escapes around file? overrides stage u ∧
          ∀ earlier ∈ before, ∀ t, ¬ Settings.Complaint around file? overrides earlier t) ∧
    ∀ (words : List String) (r : Request) (supply : List Node), Asks frontend around words r →
      let o := run frontend around words supply
      (∀ f, Settings.load around r.config? r.overrides = .error (.reported f) →
        let markup := "[red]Configuration error:[/red] " ++ frontend.console.escape f.text
        o.exitCode = 1 ∧ o.stdout = "" ∧
        (∀ line, frontend.console.line markup = .ok line → o.stderr = line ∧ o.raised? = none) ∧
        ∀ u, frontend.console.line markup = .error u → o.stderr = "" ∧ o.raised? = some u) ∧
      ∀ u, Settings.load around r.config? r.overrides = .error (.uncaught u) →
        o = { exitCode := 1, raised? := some u } := by
  constructor
  · intro file? overrides
    exact ⟨fun _ => Settings.configuration_of_load, Settings.load_uncaught_iff⟩
  · intro words r supply h o
    refine ⟨?_, fun u hload => run_of_uncaught h supply hload⟩
    intro f hload markup
    obtain ⟨hdrawn, hnot⟩ := run_of_reported h supply hload
    have hended : o.exitCode = 1 ∧ o.stdout = "" := by
      have ho : o = execute frontend.console around r supply := run_eq_execute h supply
      rw [ho]
      exact execute_of_load_error hload
    refine ⟨hended.1, hended.2, ?_, ?_⟩
    · intro line hline
      have ho : o = _ := hdrawn line hline
      rw [ho]
      exact ⟨rfl, rfl⟩
    · intro u hline
      have ho : o = _ := hnot u hline
      rw [ho]
      exact ⟨rfl, rfl⟩

/-! ## A settings file next to a source -/

/-- Where the settings file of a machine with one source stands. -/
def settingsPath : Path := ⟨1, ["w", Settings.fileName]⟩

/-- A machine with one source and a settings file. -/
def scriptWithSettings (bytes : ByteArray) : Surroundings :=
  { oneScript with
    files.look := fun p =>
      if p = settingsPath then .found (.file bytes) else oneScript.files.look p
    runtime := Settings.usualRuntime }

theorem asks_scriptWithSettings (bytes : ByteArray) :
    Asks .standard (scriptWithSettings bytes) gateWords gateRequest := read_gateWords _

theorem entryLayer_notToml :
    Settings.entryLayer Settings.usualRuntime settingsPath (.file "tolerant = = true".toUTF8) =
      .error (Settings.badFile settingsPath "Invalid value (at line 1, column 12)") := by
  cbv

/-- No character starts with this byte. -/
def loneByte : ByteArray := ⟨#[0xff]⟩

/-- What is wrong with it. -/
def loneByteFault : Utf8.Fault := ⟨0, 1, 0xff, .startByte⟩

theorem firstFault?_loneByte : Utf8.firstFault? loneByte = some loneByteFault := by
  cbv

theorem load_loneByte {overrides : List (String × Value)}
    (hkeys : overrides.any (·.1 == Settings.fileKey) = false) :
    Settings.load (scriptWithSettings loneByte) none overrides =
      .error (.uncaught (.notUtf8 loneByteFault)) := by
  have hproject : SettingsFile.project.read (scriptWithSettings loneByte) none =
      .error (.uncaught (.notUtf8 loneByteFault)) := by
    show Settings.entryLayer Settings.usualRuntime settingsPath (.file loneByte) = _
    simp only [Settings.entryLayer, Entry.content, Entry.file,
      Settings.decode_of_fault firstFault?_loneByte]
  rw [Settings.load_eq, hproject, Settings.refuseFileKey, hkeys]
  rfl

/-- The settings file is no TOML: that is told, and the gate that the words set is not reached.  A
byte that starts no character is not told. -/
theorem refused_settings_told_notToml :
    let text := "tolerant = = true".toUTF8
    let message := "Invalid config file '/w/js-complexity.toml': "
      ++ "Invalid value (at line 1, column 12)"
    let o := run .standard (scriptWithSettings text) gateWords []
    Asks .standard (scriptWithSettings text) gateWords gateRequest ∧
    Settings.load (scriptWithSettings text) gateRequest.config? gateRequest.overrides =
      .error (.reported (.configuration message)) ∧
    o.exitCode = 1 ∧ o.stdout = "" ∧ o.stderr = "Configuration error: " ++ message ++ "\n" ∧
    Settings.load (scriptWithSettings loneByte) none [] =
      .error (.uncaught (.notUtf8 loneByteFault)) := by
  intro text message o
  have hload : Settings.load (scriptWithSettings text) gateRequest.config? gateRequest.overrides =
      .error (.reported (.configuration message)) := by
    have hproject : SettingsFile.project.read (scriptWithSettings text) none =
        .error (Settings.badFile settingsPath "Invalid value (at line 1, column 12)") :=
      entryLayer_notToml
    show Settings.load _ none _ = _
    rw [Settings.load_eq, hproject]
    rfl
  have hline : Frontend.standard.console.line ("[red]Configuration error:[/red] "
      ++ Frontend.standard.console.escape (Failure.configuration message).text) =
      .ok ("Configuration error: " ++ message ++ "\n") := by
    decide +kernel
  obtain ⟨-, htold⟩ := refused_settings_told .standard (scriptWithSettings text)
  obtain ⟨hescapes, -⟩ := refused_settings_told .standard (scriptWithSettings loneByte)
  obtain ⟨hcode, hstdout, hdrawn, -⟩ :=
    (htold _ _ [] (asks_scriptWithSettings text)).1 _ hload
  refine ⟨asks_scriptWithSettings text, hload, hcode, hstdout, (hdrawn _ hline).1, ?_⟩
  refine ((hescapes _ _).2 _).mpr ⟨[.call, .file .home], .file .project, _, rfl, ?_, ?_⟩
  · have hfound : (scriptWithSettings loneByte).files.look settingsPath =
        .found (.file loneByte) := rfl
    exact .notUtf8 rfl hfound rfl firstFault?_loneByte
  · intro earlier hearlier
    refine (Settings.complaint?_eq_none_iff earlier).mp ?_
    rcases List.mem_cons.mp hearlier with rfl | hearlier
    · rfl
    · rw [List.mem_singleton.mp hearlier]
      rfl

/-- Settings are refused without a failure being reported: a settings file that is not UTF-8 makes
the command end without a line, and neither an import name that is a number is told nor a value with
too many values inside one another. -/
theorem refused_settings_not_told :
    Asks .standard (scriptWithSettings loneByte) gateWords gateRequest ∧
    Settings.load (scriptWithSettings loneByte) none [] =
      .error (.uncaught (.notUtf8 loneByteFault)) ∧
    run .standard (scriptWithSettings loneByte) gateWords [] =
      { exitCode := 1, raised? := some (.notUtf8 loneByteFault) } ∧
    Settings.load oneScript none [(Field.importCallee.key, .int 5)] =
      .error (.uncaught (.noIdentifierTest "int")) ∧
    Settings.load oneScript none [(Field.outputFormat.key, Settings.nested 1000)] =
      .error (.uncaught (.notShowable .tooDeep)) := by
  refine ⟨asks_scriptWithSettings _, load_loneByte rfl, ?_, rfl, ?_⟩
  · exact run_of_uncaught (asks_scriptWithSettings _) [] (load_loneByte (by decide))
  · exact Settings.load_not_showable rfl rfl (fun _ => rfl) (by decide)

end Command

end CodeMetrics
