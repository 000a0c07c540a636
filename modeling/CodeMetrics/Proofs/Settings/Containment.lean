import CodeMetrics.Proofs.Settings.Causes

/-!
# Which troubles of settings are not reported

What is wrong with settings is reported as a failure of the configuration, unless
the first stage that finds fault comes upon one of the conditions that no one
catches.

* `Settings.load_uncaught_iff` — loading ends in such a condition just if the
  first stage that finds fault comes upon it;
* `Settings.configuration_of_load` — everything else that loading ends in is a
  failure of the configuration;
* `Settings.load_not_showable` — one of the conditions: a value that is refused,
  and has values too deep inside it to be told.
-/

namespace CodeMetrics

namespace Settings

section

variable {around : Surroundings} {file? : Option Path} {overrides : List (String × Value)}

/-- Loading ends in a condition that is not reported just if the first stage that finds fault comes
upon one of those listed. -/
theorem load_uncaught_iff (u : Uncaught) :
    load around file? overrides = .error (.uncaught u) ↔ ∃ before stage after,
      LoadStage.all = before ++ stage :: after ∧ Escapes around file? overrides stage u ∧
        ∀ earlier ∈ before, ∀ t, ¬ Complaint around file? overrides earlier t := by
  rw [← error?_eq_some_iff, error?_load, List.findSome?_eq_some_iff]
  simp only [complaint?_eq_some_iff, complaint?_eq_none_iff, complaint_uncaught_iff]

/-- What a stage reports is a failure of the configuration. -/
theorem configuration_of_rejects {stage : LoadStage} {f : Failure}
    (h : Rejects around file? overrides stage f) : .configuration ∈ f.kind.lineage := by
  cases h <;> simp [Failure.kind, FailureKind.lineage]

/-- What loading reports is a failure of the configuration. -/
theorem configuration_of_load {f : Failure}
    (h : load around file? overrides = .error (.reported f)) : .configuration ∈ f.kind.lineage := by
  rw [← error?_eq_some_iff, error?_load, List.findSome?_eq_some_iff] at h
  obtain ⟨_, stage, _, _, hcomplaint, _⟩ := h
  exact configuration_of_rejects
    (complaint_reported_iff.mp ((complaint?_eq_some_iff stage _).mp hcomplaint))

end

/-! ## Values too deep to be told -/

/-- Arrays inside one another. -/
def nested : Nat → Value
  | 0 => .array []
  | n + 1 => .array [nested n]

/-- The innermost array holds nothing, which takes no level. -/
theorem displayFault?_nested (room n : Nat) :
    (nested n).displayFault? room = if n ≤ room then none else some .tooDeep := by
  induction n generalizing room with
  | zero => rfl
  | succ n ih =>
    show (if room = 0 then some ShowFault.tooDeep
      else ((nested n).displayFault? (room - 1)).or none) = _
    rw [ih, Option.or_none]
    split
    · rw [if_neg (by omega)]
    · exact if_congr (by omega) rfl rfl

/-- No format has such a name, and the value that is refused cannot be told. -/
theorem load_not_showable {around : Surroundings}
    (hhome : around.files.look (homeFile around) = .missing)
    (hproject : around.files.look (projectFile around) = .missing)
    (henv : ∀ f, around.env? (Environment.nameOf f) = none) {n : Nat}
    (hn : around.runtime.shownLevels < n) :
    load around none [(Field.outputFormat.key, nested n)] =
      .error (.uncaught (.notShowable .tooDeep)) := by
  have hread (w : SettingsFile) : w.read around none = .ok {} :=
    SettingsFile.read_of_holds (SettingsFile.holds_of_missing hhome hproject w)
  have hlayer : Environment.layer around.env? = .ok {} := by
    simp only [Environment.layer, Environment.layerOf, Field.all, henv]
    rfl
  have htable : ofTable (layered (SettingsFile.pick {} {} {}) {}
      [(Field.outputFormat.key, nested n)]) =
      .error (.invalid .outputFormat (nested n) "expected one of text, json, rich") := by
    cases n <;> rfl
  have hfault : (nested n).plainFault? around.runtime.shownLevels = some .tooDeep := by
    have hinside := displayFault?_nested around.runtime.shownLevels n
    rw [if_neg (by omega)] at hinside
    cases n <;> exact hinside
  rw [load_eq, hread, hread, hread, hlayer]
  show Except.mapError _ (ofTable (layered (SettingsFile.pick {} {} {}) {} _)) = _
  rw [htable]
  show Except.error (loadTrouble _ _) = _
  rw [loadTrouble_invalid, hfault]

end Settings

end CodeMetrics
