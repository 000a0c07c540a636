import CodeMetrics.Proofs.Session.Tolerance
import CodeMetrics.Proofs.Settings.Limits

/-!
# What settings that pass the checks are good for

The checks do not look at everything that a run makes of the settings.  A run
asks whether damage is tolerated, so any value will do there, and it acts as the
truth value that it has.  A gate need not be a whole number.  And a size limit
need not have a number of bytes, on which the analysis of a file ends.

* `Run.OpenTrouble` — what ends the opening of a source (`Run.openSource_error_iff`);
* `Run.analysis_mem_of_reported`, `Run.analyzeFile_uncaught_iff` — the failures of an analysis that
  are reported, and those that are not;
* `Settings.gate_cases` — the gates that pass;
* `Run.accepted_settings_usable` — all of it, for settings that pass the checks.
-/

namespace CodeMetrics

namespace Run

/-- What ends the opening of a source: its language, the limit, or the file, in this order. -/
inductive OpenTrouble (fs : FileSystem) (settings : Settings) (p : Path) : Trouble → Prop
  | language : Language.ofPath? p = none →
      OpenTrouble fs settings p (.reported (.unsupportedLanguage
        (if p.suffix.isEmpty then p.name else p.suffix) Language.supported (some p.text)))
  | limit {l : Language} {u : Uncaught} : Language.ofPath? p = some l →
      settings.maxFileBytes = .error u → OpenTrouble fs settings p (.uncaught u)
  | file {l : Language} {limit : Int} {fault : ReadFault} : Language.ofPath? p = some l →
      settings.maxFileBytes = .ok limit → fs.readSource p limit = .error fault →
      OpenTrouble fs settings p (fault.trouble p)

variable {fs : FileSystem} {settings : Settings} {p : Path} {e : Trouble} {s : Session}

theorem openSource_of_unknown (hlanguage : Language.ofPath? p = none) :
    openSource fs settings p s = .error (.reported (.unsupportedLanguage
      (if p.suffix.isEmpty then p.name else p.suffix) Language.supported (some p.text))) s := by
  unfold openSource languageOf
  rw [hlanguage]
  rfl

theorem openSource_of_limit {l : Language} {u : Uncaught}
    (hlanguage : Language.ofPath? p = some l) (hlimit : settings.maxFileBytes = .error u) :
    openSource fs settings p s = .error (.uncaught u) s := by
  unfold openSource languageOf
  rw [hlanguage, hlimit]
  rfl

/-- Opening a source ends in a trouble just if it is one of those listed. -/
theorem openSource_error_iff :
    (∃ s', openSource fs settings p s = .error e s') ↔ OpenTrouble fs settings p e := by
  constructor
  · rintro ⟨s', h⟩
    cases hlanguage : Language.ofPath? p with
    | none =>
      rw [openSource_of_unknown hlanguage] at h
      cases h
      exact .language hlanguage
    | some l =>
      cases hlimit : settings.maxFileBytes with
      | error u =>
        rw [openSource_of_limit hlanguage hlimit] at h
        cases h
        exact .limit hlanguage hlimit
      | ok limit =>
        rw [openSource_eq hlanguage hlimit] at h
        split at h
        · rename_i hread
          cases h
          exact .file hlanguage hlimit hread
        · cases h
  · intro h
    cases h with
    | language hlanguage => exact ⟨s, openSource_of_unknown hlanguage⟩
    | limit hlanguage hlimit => exact ⟨s, openSource_of_limit hlanguage hlimit⟩
    | file hlanguage hlimit hread =>
      refine ⟨s, ?_⟩
      rw [openSource_eq hlanguage hlimit, hread]

/-- Judging a tree ends in a syntax error if it ends in a trouble. -/
theorem judge_error {path language : String} {tree : Node} {s' : Session}
    (h : judge settings path language tree s = .error e s') :
    ∃ line : Nat, e = .reported (.parsing (Path.ofString path).text language
      s!"syntax error near line {line}") := by
  cases hdamage : tree.damagedLine? with
  | none =>
    rw [judge_sound hdamage, analyzeTree_eq] at h
    cases h
  | some line =>
    cases htolerant : settings.isTolerant with
    | false =>
      rw [judge_refused htolerant hdamage] at h
      cases h
      exact ⟨line, rfl⟩
    | true =>
      rw [judge_recovered htolerant hdamage, analyzeTree_eq] at h
      cases h

/-- The analysis of a file ends as its opening does, or in a syntax error. -/
theorem analyzeFile_error {s' : Session} (h : analyzeFile fs settings p s = .error e s') :
    OpenTrouble fs settings p e ∨ ∃ language line, e = syntaxError p language line := by
  rw [analyzeFile_eq] at h
  cases hopen : openSource fs settings p s with
  | error e' t =>
    rw [bind_of_error hopen] at h
    cases h
    exact .inl (openSource_error_iff.mp ⟨_, hopen⟩)
  | ok opened t =>
    rw [bind_of_ok hopen] at h
    obtain ⟨line, he⟩ := judge_error h
    exact .inr ⟨opened.1, line, he⟩

theorem analyzeFile_of_openTrouble (h : OpenTrouble fs settings p e) (s : Session) :
    ∃ s', analyzeFile fs settings p s = .error e s' := by
  obtain ⟨s', hopen⟩ := (openSource_error_iff (s := s)).mpr h
  rw [analyzeFile_eq, bind_of_error hopen]
  exact ⟨s', rfl⟩

/-! ## What is reported, and what is not -/

/-- A fault of a file that is reported is one of an analysis. -/
theorem analysis_mem_of_trouble {fault : ReadFault} {f : Failure}
    (h : fault.trouble p = .reported f) : .analysis ∈ f.kind.lineage := by
  cases fault <;> cases h <;> simp [Failure.kind, FailureKind.lineage]

/-- What the analysis of a file reports is a failure of an analysis. -/
theorem analysis_mem_of_reported {f : Failure} {s' : Session}
    (h : analyzeFile fs settings p s = .error (.reported f) s') : .analysis ∈ f.kind.lineage := by
  rcases analyzeFile_error h with hopen | ⟨language, line, he⟩
  · generalize he : Trouble.reported f = e at hopen
    cases hopen with
    | language _ =>
      cases he
      simp [Failure.kind, FailureKind.lineage]
    | limit _ _ => cases he
    | file _ _ _ => exact analysis_mem_of_trouble he.symm
  · cases he
    simp [Failure.kind, FailureKind.lineage]

theorem readSource_refused_iff {limit : Int} {e : OsError} :
    fs.readSource p limit = .error (.refused e) ↔ fs.look p = .refused e := by
  constructor
  · intro h
    unfold FileSystem.readSource at h
    split at h
    · cases h
    · rename_i hlook
      cases h
      exact hlook
    · cases h
    · cases h
    · split at h
      · cases h
      · split at h
        · cases h
        · split at h <;> cases h
  · intro h
    rw [FileSystem.readSource, h]

/-- The trouble of a file is not reported just if the system refuses to tell what stands there. -/
theorem trouble_uncaught_iff {fault : ReadFault} {u : Uncaught} :
    fault.trouble p = .uncaught u ↔ ∃ e, fault = .refused e ∧ u = .os e := by
  constructor
  · intro h
    cases fault <;> cases h
    exact ⟨_, rfl, rfl⟩
  · rintro ⟨e, rfl, rfl⟩
    rfl

/-- The analysis of a file ends in a condition that is not reported just if the file is in a known
language and either the size limit has no number of bytes, or it has and the system refuses to tell
what stands at the path. -/
theorem analyzeFile_uncaught_iff (hpos : settings.maxFileSizeMb.leInt 0 = false) (s : Session)
    (u : Uncaught) :
    (∃ s', analyzeFile fs settings p s = .error (.uncaught u) s') ↔
      (Language.ofPath? p).isSome = true ∧ (settings.limitFault? = some u ∨
        settings.limitFault? = none ∧ ∃ e, fs.look p = .refused e ∧ u = .os e) := by
  -- what is wrong with the limit is all that asking for it in bytes can fail with
  have hfault := Settings.error?_maxFileBytes hpos
  constructor
  · rintro ⟨s', h⟩
    rcases analyzeFile_error h with hopen | ⟨_, _, he⟩
    · generalize he : Trouble.uncaught u = e at hopen
      cases hopen with
      | language _ => cases he
      | limit hlanguage hlimit =>
        cases he
        rw [hlimit, error?_error] at hfault
        exact ⟨by rw [hlanguage]; rfl, .inl hfault.symm⟩
      | file hlanguage hlimit hread =>
        obtain ⟨e', rfl, hu⟩ := trouble_uncaught_iff.mp he.symm
        rw [hlimit, error?_ok] at hfault
        exact ⟨by rw [hlanguage]; rfl,
          .inr ⟨hfault.symm, e', readSource_refused_iff.mp hread, hu⟩⟩
    · cases he
  · rintro ⟨hknown, h⟩
    obtain ⟨l, hlanguage⟩ := Option.isSome_iff_exists.mp hknown
    rcases h with hu | ⟨hnone, e', hlook, rfl⟩
    · have hlimit := error?_eq_some_iff.mp (hfault.trans hu)
      exact analyzeFile_of_openTrouble (.limit hlanguage hlimit) s
    · obtain ⟨limit, hlimit⟩ := error?_eq_none_iff.mp (hfault.trans hnone)
      have hread : fs.readSource p limit = .error (.refused e') := readSource_refused_iff.mpr hlook
      exact analyzeFile_of_openTrouble (.file hlanguage hlimit hread) s

/-- Whether damage is tolerated is a matter of the truth value only. -/
theorem analyzeFile_withTolerance (fs : FileSystem) (settings : Settings) (p : Path) :
    analyzeFile fs (settings.withTolerance settings.isTolerant) p = analyzeFile fs settings p :=
  rfl

end Run

/-! ## Settings that pass the checks -/

/-- A gate that passes is off, or true, or a whole number of at least one, or a fractional number
that does not lie below one, among them what is no number. -/
theorem Settings.gate_cases {t : OrderedTable Value} {s : Settings} (h : ofTable t = .ok s) :
    s.failAbove = none ∨ s.failAbove = some (.bool true) ∨
      (∃ n : Int, 1 ≤ n ∧ s.failAbove = some (.int n)) ∨
      ∃ x : Binary64, x.ltInt 1 = false ∧ s.failAbove = some (.float x) := by
  cases hgate : s.failAbove with
  | none => exact .inl rfl
  | some q =>
    have hlow := gate_of_ofTable h hgate
    cases q with
    | bool b =>
      cases b with
      | false => cases hlow
      | true => exact .inr (.inl rfl)
    | int n =>
      have hn : ¬n < 1 := of_decide_eq_false hlow
      exact .inr (.inr (.inl ⟨n, by omega, rfl⟩))
    | float x => exact .inr (.inr (.inr ⟨x, hlow, rfl⟩))

namespace Run

/-- What settings that pass the checks are good for.

* Any value is taken for tolerance, and a file is analysed under it as under its truth value.
* The gate is off, true, a whole number of at least one, or a fractional one not below one.
* The size limit has a number of bytes unless it is no number or is not below the bound, and then
  the number is not negative.
* What the analysis of a file reports is a failure of an analysis.  It ends otherwise just if the
  language of the file is known and either the limit has no number of bytes, or it has one and the
  system refuses to tell what stands at the path. -/
theorem accepted_settings_usable {t : OrderedTable Value} {settings : Settings}
    (h : Settings.ofTable t = .ok settings) :
    (settings.tolerant = Settings.lookup t .tolerant ∧ ∀ fs p,
      analyzeFile fs settings p = analyzeFile fs (settings.withTolerance settings.isTolerant) p) ∧
    (settings.failAbove = none ∨ settings.failAbove = some (.bool true) ∨
      (∃ n : Int, 1 ≤ n ∧ settings.failAbove = some (.int n)) ∨
      ∃ x : Binary64, x.ltInt 1 = false ∧ settings.failAbove = some (.float x)) ∧
    ((∃ n, 0 ≤ n ∧ settings.maxFileBytes = .ok n) ↔ settings.limitFault? = none) ∧
    ∀ fs p s,
      (∀ f s', analyzeFile fs settings p s = .error (.reported f) s' →
        .analysis ∈ f.kind.lineage) ∧
      ∀ u, (∃ s', analyzeFile fs settings p s = .error (.uncaught u) s') ↔
        (Language.ofPath? p).isSome = true ∧ (settings.limitFault? = some u ∨
          settings.limitFault? = none ∧ ∃ e, fs.look p = .refused e ∧ u = .os e) := by
  have hpos := Settings.limit_of_ofTable h
  refine ⟨⟨Settings.get_of_ofTable h .tolerant, fun fs p => ?_⟩, Settings.gate_cases h,
    Settings.maxFileBytes_ok_iff hpos, fun fs p s => ⟨?_, ?_⟩⟩
  · exact (analyzeFile_withTolerance fs settings p).symm
  · exact fun f s' => analysis_mem_of_reported
  · exact analyzeFile_uncaught_iff hpos s

/-! ## Values that no one meant -/

/-- One and a half. -/
def threeHalves : Binary64 := .finite false 6755399441055744 (-52)

/-- A text for tolerance, and a fractional gate. -/
def oddSettings : Settings := { tolerant := .text "no", failAbove := some (.float threeHalves) }

theorem ofTable_oddSettings : Settings.ofTable (.ofList
    [("tolerant", .text "no"), ("fail_above", .float threeHalves)]) = .ok oddSettings := rfl

/-- A directory that may not be looked into, next to the source. -/
def lockedLibrary : FileSystem where
  look p :=
    if p.names.head? = some "lib" then .refused (.noAccess p.text) else oneSource.look p

/-- Odd settings with a limit that can be used.  On a machine that always tells what stands at a
path every trouble of an analysis is reported; in a directory that may not be looked into it is
not. -/
theorem accepted_settings_usable_oddSettings :
    Settings.ofTable (.ofList [("tolerant", .text "no"), ("fail_above", .float threeHalves)]) =
      .ok oddSettings ∧
    (∃ n, 0 ≤ n ∧ oddSettings.maxFileBytes = .ok n) ∧
    (∀ p s u s', analyzeFile oneSource oddSettings p s ≠ .error (.uncaught u) s') ∧
    ∃ s', analyzeFile lockedLibrary oddSettings ⟨0, ["lib", "a.js"]⟩ {} =
      .error (.uncaught (.os ⟨13, "Permission denied", some "lib/a.js"⟩)) s' := by
  obtain ⟨-, -, hlimit, hends⟩ := accepted_settings_usable ofTable_oddSettings
  have hfault : oddSettings.limitFault? = none := by decide +kernel
  refine ⟨rfl, hlimit.mpr hfault, ?_, ?_⟩
  · intro p s u s' h
    obtain ⟨-, hu | ⟨-, e, hlook, -⟩⟩ := ((hends oneSource p s).2 u).mp ⟨s', h⟩
    · rw [hfault] at hu
      cases hu
    · unfold oneSource at hlook
      dsimp only at hlook
      split at hlook <;> cases hlook
  · refine ((hends lockedLibrary _ {}).2 _).mpr ⟨?_, .inr ⟨hfault, .noAccess "lib/a.js", rfl, rfl⟩⟩
    cbv

/-- A limit that is no number passes the check, next to a text for tolerance and a fractional gate.
It has no number of bytes, and the analysis of a source ends on it. -/
theorem accepted_settings_not_usable :
    let settings : Settings := { oddSettings with maxFileSizeMb := .float .nan }
    Settings.ofTable (.ofList [("tolerant", .text "no"), ("fail_above", .float threeHalves),
      ("max_file_size_mb", .float .nan)]) = .ok settings ∧
    settings.tolerant = .text "no" ∧
    settings.failAbove = some (.float threeHalves) ∧
    settings.maxFileBytes = .error .nanLimit ∧
    analyzeFile oneSource settings ⟨0, ["a.js"]⟩ {} = .error (.uncaught .nanLimit) {} := by
  intro settings
  have hlimit : settings.maxFileBytes = .error .nanLimit := rfl
  refine ⟨rfl, rfl, rfl, hlimit, ?_⟩
  rw [analyzeFile_eq, bind_of_error (openSource_of_limit (ofPath?_script 0) hlimit)]

end Run

end CodeMetrics
