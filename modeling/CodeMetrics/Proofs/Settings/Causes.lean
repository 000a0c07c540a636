import CodeMetrics.Proofs.Settings.Stages
import CodeMetrics.Proofs.Text.Quoted
import CodeMetrics.Proofs.Value.Showing

/-!
# Why settings are refused

Every stage of loading settings has its causes to refuse them.  They are listed
here one by one, with what is told, apart from the checks that come upon them
and from one another.

* `Settings.Unfit` — the values that a setting cannot have;
* `Settings.Rejects` — the causes that are reported, each with its failure;
* `Settings.Escapes` — the conditions that no one catches;
* `Settings.complaint?_eq_some_iff` — the checks of a stage come upon these, and
  upon nothing else;
* `Settings.load_first_complaint` — loading fails with the first of them, and
  succeeds if there is none.
-/

namespace CodeMetrics

namespace Settings

/-! ## Causes -/

/-- A value does not fit a setting, for a reason. -/
inductive Unfit : Field → Value → SettingsFault → Prop
  | callee {s : String} : Text.isIdentifier s = false →
      Unfit .importCallee (.text s)
        (.invalid .importCallee (.text s) "must be a plain identifier")
  /-- What is no text is refused for being empty, and else it cannot be asked. -/
  | emptyCallee {v : Value} : (∀ s, v ≠ .text s) → v.truthy = false →
      Unfit .importCallee v (.invalid .importCallee v "must be a plain identifier")
  | untestable {v : Value} : (∀ s, v ≠ .text s) → v.truthy = true →
      Unfit .importCallee v (.noIdentifierTest v.sort)
  | limit {q : Quantity} : q.leInt 0 = true →
      Unfit .maxFileSizeMb q.toValue (.invalid .maxFileSizeMb q.toValue "must be positive")
  | incomparableLimit {v : Value} : (∀ q : Quantity, v ≠ q.toValue) →
      Unfit .maxFileSizeMb v (.notComparable "<=" v.sort)
  | format {v : Value} : (∀ format : OutputFormat, v ≠ .text format.name) →
      Unfit .outputFormat v (.invalid .outputFormat v "expected one of text, json, rich")
  | gate {q : Quantity} : q.ltInt 1 = true →
      Unfit .failAbove q.toValue (.invalid .failAbove q.toValue "must be at least 1")
  | incomparableGate {v : Value} : v ≠ .null → (∀ q : Quantity, v ≠ q.toValue) →
      Unfit .failAbove v (.notComparable "<" v.sort)
  | verbosity {v : Value} : (∀ verbosity : Verbosity, v ≠ .text verbosity.name) →
      Unfit .verbosity v (.invalid .verbosity v "expected one of quiet, normal, verbose")

/-- The first of the names that no setting has. -/
def FirstUnknown (names : List String) (name : String) : Prop :=
  ∃ known later, names = known ++ name :: later ∧ (∀ f : Field, name ≠ f.key) ∧
    ∀ k ∈ known, ∃ f : Field, k = f.key

section

variable (around : Surroundings) (file? : Option Path) (overrides : List (String × Value))

/-- What a stage finds fault with, and the failure that is reported for it. -/
inductive Rejects : LoadStage → Failure → Prop
  | notFound {p : Path} : file? = some p → around.files.look p = .missing →
      Rejects .presence (.configuration s!"Config file not found: {p.text}")
  /-- The system refuses to give the bytes of the file, be it because it is a directory. -/
  | unreadable {w : SettingsFile} {p : Path} {entry : Entry} {e : OsError} :
      w.path? around file? = some p → around.files.look p = .found entry →
      entry.content = .error e →
      Rejects (.file w) (.configuration s!"Invalid config file '{p.text}': {e.text}")
  | notToml {w : SettingsFile} {p : Path} {entry : Entry} {text : String} :
      w.path? around file? = some p → around.files.look p = .found entry →
      entry.content = .ok text.toUTF8 →
      Toml.read around.runtime.tomlLevels text = .error .malformed →
      Rejects (.file w)
        (.configuration s!"Invalid config file '{p.text}': {around.runtime.tomlReason text}")
  | notBoolean {text : String} : around.env? "JSCX_TOLERANT" = some text →
      text.map Char.toLower ∉ ["true", "1", "yes", "on", "false", "0", "no", "off"] →
      Rejects (.environment .tolerant)
        (.invalidSetting "JSCX_TOLERANT" (.text text) s!"expected true/false, got '{text}'")
  | notFloat {text : String} {fault : NumeralFault} :
      around.env? "JSCX_MAX_FILE_SIZE_MB" = some text → Numeral.readFloat text = .error fault →
      Rejects (.environment .maxFileSizeMb)
        (.invalidSetting "JSCX_MAX_FILE_SIZE_MB" (.text text) fault.message)
  | notInteger {text : String} {fault : NumeralFault} :
      around.env? "JSCX_FAIL_ABOVE" = some text → Numeral.readInt text = .error fault →
      Rejects (.environment .failAbove)
        (.invalidSetting "JSCX_FAIL_ABOVE" (.text text) fault.message)
  | unknownName {tables : SettingsFile → OrderedTable Value} {name : String} :
      (∀ w : SettingsFile, w.Holds around file? (tables w)) →
      FirstUnknown (namesGiven tables overrides) name → name ≠ "self" →
      Rejects .names (.configuration ("Invalid configuration: "
        ++ s!"AnalysisConfig.__init__() got an unexpected keyword argument '{name}'"))
  /-- A call has a use of its own for this name. -/
  | ownName {tables : SettingsFile → OrderedTable Value} :
      (∀ w : SettingsFile, w.Holds around file? (tables w)) →
      FirstUnknown (namesGiven tables overrides) "self" →
      Rejects .names (.configuration ("Invalid configuration: "
        ++ "AnalysisConfig.__init__() got multiple values for argument 'self'"))
  | incomparable {tables : SettingsFile → OrderedTable Value} {f : Field}
      {operator sort : String} :
      (∀ w : SettingsFile, w.Holds around file? (tables w)) →
      Unfit f (settled around overrides tables f) (.notComparable operator sort) →
      Rejects (.value f) (.configuration ("Invalid configuration: "
        ++ s!"'{operator}' not supported between instances of '{sort}' and 'int'"))
  /-- A refusal tells the value that is refused. -/
  | invalid {tables : SettingsFile → OrderedTable Value} {f : Field} {v : Value}
      {reason : String} :
      (∀ w : SettingsFile, w.Holds around file? (tables w)) →
      Unfit f (settled around overrides tables f) (.invalid f v reason) →
      v.Shown around.runtime.shownLevels → Rejects (.value f) (.invalidSetting f.key v reason)

/-- The conditions that a stage can come upon and that are not reported. -/
inductive Escapes : LoadStage → Uncaught → Prop
  /-- The settings file is given twice, as such and among the overrides. -/
  | fileKey : overrides.any (·.1 == fileKey) = true →
      Escapes .call (.doubledKeyword "js_complexity.config.load_config" "config_file")
  /-- The system refuses to tell what stands at the path. -/
  | refused {w : SettingsFile} {p : Path} {e : OsError} : w.path? around file? = some p →
      around.files.look p = .refused e → Escapes (.file w) (.os e)
  | notUtf8 {w : SettingsFile} {p : Path} {entry : Entry} {bytes : ByteArray}
      {fault : Utf8.Fault} :
      w.path? around file? = some p → around.files.look p = .found entry →
      entry.content = .ok bytes → Utf8.firstFault? bytes = some fault →
      Escapes (.file w) (.notUtf8 fault)
  | numeralTooLong {w : SettingsFile} {p : Path} {entry : Entry} {text : String} {digits : Nat} :
      w.path? around file? = some p → around.files.look p = .found entry →
      entry.content = .ok text.toUTF8 →
      Toml.read around.runtime.tomlLevels text = .error (.numeralTooLong digits) →
      Escapes (.file w) (.numeralTooLong digits)
  | tooDeep {w : SettingsFile} {p : Path} {entry : Entry} {text : String} :
      w.path? around file? = some p → around.files.look p = .found entry →
      entry.content = .ok text.toUTF8 →
      Toml.read around.runtime.tomlLevels text = .error .tooDeep →
      Escapes (.file w) .tooDeep
  /-- The import name is neither a text nor empty. -/
  | noIdentifierTest {tables : SettingsFile → OrderedTable Value} {sort : String} :
      (∀ w : SettingsFile, w.Holds around file? (tables w)) →
      Unfit .importCallee (settled around overrides tables .importCallee)
        (.noIdentifierTest sort) →
      Escapes (.value .importCallee) (.noIdentifierTest sort)
  /-- A refused value would have to be told, and cannot be. -/
  | notShowable {tables : SettingsFile → OrderedTable Value} {f : Field} {v : Value}
      {reason : String} {fault : ShowFault} :
      (∀ w : SettingsFile, w.Holds around file? (tables w)) →
      Unfit f (settled around overrides tables f) (.invalid f v reason) →
      v.plainFault? around.runtime.shownLevels = some fault →
      Escapes (.value f) (.notShowable fault)

/-- What a stage finds fault with, whatever is wrong in the others. -/
inductive Complaint : LoadStage → Trouble → Prop
  | rejects {stage : LoadStage} {f : Failure} : Rejects around file? overrides stage f →
      Complaint stage (.reported f)
  | escapes {stage : LoadStage} {u : Uncaught} : Escapes around file? overrides stage u →
      Complaint stage (.uncaught u)

end

section

variable {around : Surroundings} {file? : Option Path} {overrides : List (String × Value)}
  {w : SettingsFile} {p : Path} {entry : Entry} {message : String}

/-- The failure of a file that cannot be read, with its wording worked out. -/
theorem Rejects.of_unreadable {e : OsError} (hp : w.path? around file? = some p)
    (hlook : around.files.look p = .found entry) (hcontent : entry.content = .error e)
    (hmessage : s!"Invalid config file '{p.text}': {e.text}" = message) :
    Rejects around file? overrides (.file w) (.configuration message) :=
  hmessage ▸ .unreadable hp hlook hcontent

theorem Rejects.of_unknownName {tables : SettingsFile → OrderedTable Value} {name : String}
    (hholds : ∀ w : SettingsFile, w.Holds around file? (tables w))
    (hfirst : FirstUnknown (namesGiven tables overrides) name) (hname : name ≠ "self")
    (hmessage : "Invalid configuration: " ++
      s!"AnalysisConfig.__init__() got an unexpected keyword argument '{name}'" = message) :
    Rejects around file? overrides .names (.configuration message) :=
  hmessage ▸ .unknownName hholds hfirst hname

/-- The failure of a file that is not TOML, with its wording worked out. -/
theorem Rejects.of_notToml {text : String} (hp : w.path? around file? = some p)
    (hlook : around.files.look p = .found entry) (hcontent : entry.content = .ok text.toUTF8)
    (hread : Toml.read around.runtime.tomlLevels text = .error .malformed)
    (hmessage : s!"Invalid config file '{p.text}': {around.runtime.tomlReason text}" = message) :
    Rejects around file? overrides (.file w) (.configuration message) :=
  hmessage ▸ .notToml hp hlook hcontent hread

end

theorem complaint_reported_iff {around : Surroundings} {file? : Option Path}
    {overrides : List (String × Value)} {stage : LoadStage} {f : Failure} :
    Complaint around file? overrides stage (.reported f) ↔
      Rejects around file? overrides stage f :=
  ⟨fun h => by cases h; assumption, .rejects⟩

theorem complaint_uncaught_iff {around : Surroundings} {file? : Option Path}
    {overrides : List (String × Value)} {stage : LoadStage} {u : Uncaught} :
    Complaint around file? overrides stage (.uncaught u) ↔
      Escapes around file? overrides stage u :=
  ⟨fun h => by cases h; assumption, .escapes⟩

/-! ## Values -/

theorem ofValue?_eq_none_iff {v : Value} :
    Quantity.ofValue? v = none ↔ ∀ q : Quantity, v ≠ q.toValue := by
  constructor
  · rintro h q rfl
    rw [Quantity.ofValue?_toValue] at h
    cases h
  · intro h
    cases hq : Quantity.ofValue? v with
    | none => rfl
    | some q => exact absurd (toValue_of_ofValue? hq).symm (h q)

theorem checkCallee_eq_error_iff {v : Value} {fault : SettingsFault} :
    checkCallee v = .error fault ↔ Unfit .importCallee v fault := by
  constructor
  · intro h
    unfold checkCallee at h
    dsimp only at h
    split at h
    · split at h
      · cases h
      · rename_i hident
        cases h
        exact .callee (eq_false_of_ne_true hident)
    · rename_i hnot
      split at h
      · rename_i htruthy
        cases h
        exact .untestable hnot htruthy
      · rename_i hempty
        cases h
        exact .emptyCallee hnot (eq_false_of_ne_true hempty)
  · intro h
    unfold checkCallee
    cases h with
    | callee hident => simp [hident]
    | emptyCallee hnot hempty | untestable hnot htruthy =>
      cases v with
      | text s => exact absurd rfl (hnot s)
      | _ => simp_all

theorem checkLimit_eq_error_iff {v : Value} {fault : SettingsFault} :
    checkLimit v = .error fault ↔ Unfit .maxFileSizeMb v fault := by
  unfold checkLimit
  constructor
  · intro h
    cases hq : Quantity.ofValue? v with
    | none =>
      rw [hq] at h
      cases h
      exact .incomparableLimit (ofValue?_eq_none_iff.mp hq)
    | some q =>
      rw [hq] at h
      dsimp only at h
      obtain rfl := toValue_of_ofValue? hq
      split at h
      · rename_i hlow
        cases h
        exact .limit hlow
      · cases h
  · intro h
    cases h with
    | limit hlow => simp [hlow]
    | incomparableLimit hnot => rw [ofValue?_eq_none_iff.mpr hnot]

theorem checkGate_eq_error_iff {v : Value} {fault : SettingsFault} :
    checkGate v = .error fault ↔ Unfit .failAbove v fault := by
  constructor
  · intro h
    unfold checkGate at h
    split at h
    · cases h
    · rename_i hnull
      cases hq : Quantity.ofValue? v with
      | none =>
        rw [hq] at h
        cases h
        exact .incomparableGate hnull (ofValue?_eq_none_iff.mp hq)
      | some q =>
        rw [hq] at h
        dsimp only at h
        obtain rfl := toValue_of_ofValue? hq
        split at h
        · rename_i hlow
          cases h
          exact .gate hlow
        · cases h
  · intro h
    unfold checkGate
    cases h with
    | @gate q hlow => cases q <;> exact if_pos hlow
    | incomparableGate hnull hnot =>
      split
      · exact absurd rfl hnull
      · rw [ofValue?_eq_none_iff.mpr hnot]

/-- A choice by name is none of a list just if the value is not the name of any. -/
theorem named_eq_none_iff {α : Type} (all : List α) (name : α → String) (hall : ∀ a, a ∈ all)
    {v : Value} :
    (match v with
      | .text s => all.find? (fun a => name a == s)
      | _ => none) = none ↔ ∀ a, v ≠ .text (name a) := by
  constructor
  · rintro h a rfl
    exact absurd (beq_self_eq_true _) (List.find?_eq_none.mp h a (hall a))
  · intro h
    split
    · rename_i s
      refine List.find?_eq_none.mpr fun a _ ha => ?_
      exact h a (congrArg Value.text (eq_of_beq ha).symm)
    · rfl

theorem checkFormat_eq_error_iff {v : Value} {fault : SettingsFault} :
    checkFormat v = .error fault ↔ Unfit .outputFormat v fault := by
  have hnamed := named_eq_none_iff (v := v) OutputFormat.all OutputFormat.name
    fun format => by cases format <;> decide
  unfold checkFormat OutputFormat.ofName?
  dsimp only
  constructor
  · intro h
    split at h
    · cases h
    · rename_i hnone
      cases h
      exact .format (hnamed.mp hnone)
  · intro h
    cases h with
    | format hnot =>
      split
      · rename_i hsome
        cases hsome.symm.trans (hnamed.mpr hnot)
      · rfl

theorem checkVerbosity_eq_error_iff {v : Value} {fault : SettingsFault} :
    checkVerbosity v = .error fault ↔ Unfit .verbosity v fault := by
  have hnamed := named_eq_none_iff (v := v) Verbosity.all Verbosity.name
    fun verbosity => by cases verbosity <;> decide
  unfold checkVerbosity Verbosity.ofName?
  dsimp only
  constructor
  · intro h
    split at h
    · cases h
    · rename_i hnone
      cases h
      exact .verbosity (hnamed.mp hnone)
  · intro h
    cases h with
    | verbosity hnot =>
      split
      · rename_i hsome
        cases hsome.symm.trans (hnamed.mpr hnot)
      · rfl

/-- A value is refused just if it does not fit, and for that reason. -/
theorem refusal?_eq_some_iff {f : Field} {v : Value} {fault : SettingsFault} :
    refusal? f v = some fault ↔ Unfit f v fault := by
  cases f with
  | tolerant =>
    constructor
    · intro h
      cases h
    · intro h
      cases h
  | importCallee => exact error?_eq_some_iff.trans checkCallee_eq_error_iff
  | maxFileSizeMb => exact error?_eq_some_iff.trans checkLimit_eq_error_iff
  | outputFormat => exact error?_eq_some_iff.trans checkFormat_eq_error_iff
  | failAbove => exact error?_eq_some_iff.trans checkGate_eq_error_iff
  | verbosity => exact error?_eq_some_iff.trans checkVerbosity_eq_error_iff

/-- What is found fault with: the value, its sort where it is asked whether it is an identifier, or
its sort where it is compared. -/
theorem Unfit.fault_cases {f : Field} {v : Value} {fault : SettingsFault} (h : Unfit f v fault) :
    (∃ reason, fault = .invalid f v reason) ∨
      (f = .importCallee ∧ fault = .noIdentifierTest v.sort) ∨
      ∃ operator, fault = .notComparable operator v.sort := by
  cases h with
  | callee _ | emptyCallee _ _ | limit _ | format _ | gate _ | verbosity _ => exact .inl ⟨_, rfl⟩
  | untestable _ _ => exact .inr (.inl ⟨rfl, rfl⟩)
  | incomparableLimit _ | incomparableGate _ _ => exact .inr (.inr ⟨_, rfl⟩)

/-! ## Names -/

theorem isUnknown_iff {name : String} : isUnknown name = true ↔ ∀ f : Field, name ≠ f.key := by
  constructor
  · exact fun h f => ne_key_of_isUnknown h f
  · intro h
    rw [isUnknown, Option.isNone_iff_eq_none, Field.ofKey?, List.find?_eq_none]
    exact fun f _ hf => h f (eq_of_beq hf).symm

theorem find?_isUnknown_eq_some_iff {names : List String} {name : String} :
    names.find? isUnknown = some name ↔ FirstUnknown names name := by
  rw [List.find?_eq_some_iff_append, isUnknown_iff]
  constructor
  · rintro ⟨hunknown, known, later, rfl, hknown⟩
    refine ⟨known, later, rfl, hunknown, fun k hk => ?_⟩
    by_contra hnone
    have hk' : isUnknown k = true := isUnknown_iff.mpr fun f hf => hnone ⟨f, hf⟩
    simpa [hk'] using hknown k hk
  · rintro ⟨known, later, rfl, hunknown, hknown⟩
    refine ⟨hunknown, known, later, rfl, fun k hk => ?_⟩
    obtain ⟨f, rfl⟩ := hknown k hk
    rw [isUnknown_key]
    rfl

end Settings

/-! ## Variables -/

namespace Environment

theorem complaint?_eq_some_iff {env? : String → Option String} {f : Field} {failure : Failure} :
    complaint? env? f = some failure ↔ ∃ text fault, env? (nameOf f) = some text ∧
      read f text = .error fault ∧
        failure = .invalidSetting (nameOf f) (.text text) fault.message := by
  simp only [complaint?, Option.bind_eq_some_iff, Option.map_eq_some_iff, error?_eq_some_iff,
    eq_comm (b := failure)]
  constructor
  · rintro ⟨text, htext, fault, hread, hfailure⟩
    exact ⟨text, fault, htext, hread, hfailure⟩
  · rintro ⟨text, fault, htext, hread, hfailure⟩
    exact ⟨text, htext, fault, hread, hfailure⟩

/-- A truth value is one of eight words, in any mix of cases. -/
theorem read_tolerant_eq_error_iff {text : String} {fault : EnvironmentFault} :
    read .tolerant text = .error fault ↔
      text.map Char.toLower ∉ ["true", "1", "yes", "on", "false", "0", "no", "off"] ∧
        fault = .notBoolean text := by
  rw [read, readBool]
  generalize text.map Char.toLower = word
  have hwords : word ∈ ["true", "1", "yes", "on", "false", "0", "no", "off"] ↔
      word ∈ ["true", "1", "yes", "on"] ∨ word ∈ ["false", "0", "no", "off"] :=
    List.mem_append (s := ["true", "1", "yes", "on"])
  rw [hwords]
  by_cases htrue : word ∈ ["true", "1", "yes", "on"]
  · simp [htrue, Except.map]
  · by_cases hfalse : word ∈ ["false", "0", "no", "off"]
    · simp [htrue, hfalse, Except.map]
    · simp [htrue, hfalse, Except.map, eq_comm]

theorem read_limit_eq_error_iff {text : String} {fault : EnvironmentFault} :
    read .maxFileSizeMb text = .error fault ↔
      ∃ reason, Numeral.readFloat text = .error reason ∧ fault = .notNumber reason := by
  rw [read]
  cases Numeral.readFloat text <;> simp [eq_comm]

theorem read_gate_eq_error_iff {text : String} {fault : EnvironmentFault} :
    read .failAbove text = .error fault ↔
      ∃ reason, Numeral.readInt text = .error reason ∧ fault = .notNumber reason := by
  rw [read]
  cases Numeral.readInt text <;> simp [eq_comm]

end Environment

namespace Settings

/-! ## All stages -/

section

variable {around : Surroundings} {file? : Option Path} {overrides : List (String × Value)}

theorem complaint?_call_eq_some_iff {t : Trouble} :
    complaint? around file? overrides .call = some t ↔
      Complaint around file? overrides .call t := by
  rw [complaint?, error?_eq_some_iff, refuseFileKey]
  constructor
  · intro h
    split at h
    · rename_i hgiven
      cases h
      exact .escapes (.fileKey hgiven)
    · cases h
  · rintro (⟨⟨⟩⟩ | ⟨⟨hgiven⟩⟩)
    rw [if_pos hgiven]
    rfl

theorem complaint?_presence_eq_some_iff {t : Trouble} :
    complaint? around file? overrides .presence = some t ↔
      Complaint around file? overrides .presence t := by
  constructor
  · intro h
    obtain ⟨p, hp, h⟩ := Option.bind_eq_some_iff.mp h
    split at h
    · rename_i hlook
      cases h
      exact .rejects (.notFound hp hlook)
    · cases h
  · rintro (⟨⟨hp, hlook⟩⟩ | ⟨⟨⟩⟩)
    rw [complaint?, hp, Option.bind_some, hlook]

theorem decode_of_fault {bytes : ByteArray} {fault : Utf8.Fault}
    (h : Utf8.firstFault? bytes = some fault) : Utf8.decode bytes = .error fault := by
  refine Utf8.decode_eq_error_iff.mpr ⟨fun text htext => ?_, h⟩
  rw [Utf8.firstFault?_eq_none_iff.mpr ⟨text, htext⟩] at h
  cases h

/-- What reading an entry fails with is a complaint about the file that stands there. -/
theorem complaint_of_entryLayer {w : SettingsFile} {p : Path} {entry : Entry} {t : Trouble}
    (hp : w.path? around file? = some p) (hlook : around.files.look p = .found entry)
    (h : entryLayer around.runtime p entry = .error t) :
    Complaint around file? overrides (.file w) t := by
  unfold entryLayer at h
  split at h
  · rename_i hcontent
    cases h
    exact .rejects (.unreadable hp hlook hcontent)
  · rename_i bytes hcontent
    split at h
    · rename_i hdecode
      cases h
      exact .escapes (.notUtf8 hp hlook hcontent (Utf8.decode_eq_error_iff.mp hdecode).2)
    · rename_i text hdecode
      rw [← Utf8.decode_eq_ok_iff.mp hdecode] at hcontent
      split at h <;> rename_i hread <;> cases h
      · exact .rejects (.notToml hp hlook hcontent hread)
      · exact .escapes (.numeralTooLong hp hlook hcontent hread)
      · exact .escapes (.tooDeep hp hlook hcontent hread)

/-- A complaint about a file is one about what stands at its path. -/
theorem Complaint.exists_path {w : SettingsFile} {t : Trouble}
    (h : Complaint around file? overrides (.file w) t) :
    ∃ p, w.path? around file? = some p ∧
      lookupComplaint? around.runtime p (around.files.look p) = some t := by
  cases h with
  | rejects h =>
    cases h with
    | unreadable hp hlook hcontent =>
      refine ⟨_, hp, ?_⟩
      rw [hlook, lookupComplaint?, entryLayer, hcontent]
      rfl
    | notToml hp hlook hcontent hread =>
      refine ⟨_, hp, ?_⟩
      rw [hlook]
      simp only [lookupComplaint?, entryLayer, hcontent, decode_text, hread]
      rfl
  | escapes h =>
    cases h with
    | refused hp hlook =>
      refine ⟨_, hp, ?_⟩
      rw [hlook, lookupComplaint?]
    | notUtf8 hp hlook hcontent hfault =>
      refine ⟨_, hp, ?_⟩
      rw [hlook]
      simp only [lookupComplaint?, entryLayer, hcontent, decode_of_fault hfault, error?_error]
    | numeralTooLong hp hlook hcontent hread | tooDeep hp hlook hcontent hread =>
      refine ⟨_, hp, ?_⟩
      rw [hlook]
      simp only [lookupComplaint?, entryLayer, hcontent, decode_text, hread, error?_error]

theorem complaint?_file_eq_some_iff {w : SettingsFile} {t : Trouble} :
    complaint? around file? overrides (.file w) = some t ↔
      Complaint around file? overrides (.file w) t := by
  constructor
  · intro h
    obtain ⟨p, hp, h⟩ := Option.bind_eq_some_iff.mp h
    cases hlook : around.files.look p with
    | missing =>
      rw [hlook] at h
      cases h
    | refused e =>
      rw [hlook] at h
      cases h
      exact .escapes (.refused hp hlook)
    | found entry =>
      rw [hlook] at h
      exact complaint_of_entryLayer hp hlook (error?_eq_some_iff.mp h)
  · intro h
    obtain ⟨p, hp, hlook⟩ := h.exists_path
    rw [complaint?, hp]
    exact hlook

theorem complaint?_presence_of_found {p : Path} {entry : Entry}
    (hlook : around.files.look p = .found entry) :
    complaint? around (some p) overrides .presence = none := by
  rw [complaint?, Option.bind_some, hlook]

/-- Of a file that holds a table there is nothing to complain. -/
theorem complaint?_file_of_holds {w : SettingsFile} {t : OrderedTable Value}
    (h : w.Holds around file? t) : complaint? around file? overrides (.file w) = none := by
  cases h with
  | unnamed hp => rw [complaint?, hp, Option.bind_none]
  | missing _ hp hlook => rw [complaint?, hp, Option.bind_some, hlook, lookupComplaint?]
  | toml hp hlook hcontent hread =>
    rw [complaint?, hp, Option.bind_some, hlook, lookupComplaint?, error?_eq_none_iff]
    exact ⟨_, SettingsFile.entryLayer_eq_ok_iff.mpr ⟨_, _, hcontent, hread, rfl⟩⟩

theorem complaint?_environment_of_fault {f : Field} {name text : String} {fault : EnvironmentFault}
    (hname : Environment.nameOf f = name) (htext : around.env? name = some text)
    (hread : Environment.read f text = .error fault) :
    complaint? around file? overrides (.environment f) =
      some (.reported (.invalidSetting name (.text text) fault.message)) := by
  subst hname
  exact congrArg (Option.map Trouble.reported)
    (Environment.complaint?_eq_some_iff.mpr ⟨text, fault, htext, hread, rfl⟩)

theorem complaint?_environment_eq_some_iff {f : Field} {t : Trouble} :
    complaint? around file? overrides (.environment f) = some t ↔
      Complaint around file? overrides (.environment f) t := by
  constructor
  · intro h
    obtain ⟨_, hvariable, rfl⟩ := Option.map_eq_some_iff.mp h
    obtain ⟨text, fault, htext, hread, rfl⟩ := Environment.complaint?_eq_some_iff.mp hvariable
    rw [Environment.nameOf_eq] at htext ⊢
    refine .rejects ?_
    cases f with
    | tolerant =>
      obtain ⟨hword, rfl⟩ := Environment.read_tolerant_eq_error_iff.mp hread
      exact .notBoolean htext hword
    | maxFileSizeMb =>
      obtain ⟨fault, hnumber, rfl⟩ := Environment.read_limit_eq_error_iff.mp hread
      exact .notFloat htext hnumber
    | failAbove =>
      obtain ⟨fault, hnumber, rfl⟩ := Environment.read_gate_eq_error_iff.mp hread
      exact .notInteger htext hnumber
    | importCallee | outputFormat | verbosity => cases hread
  · rintro (hrejects | hescapes)
    · cases hrejects with
      | notBoolean htext hword =>
        exact complaint?_environment_of_fault (Environment.nameOf_eq _) htext
          (Environment.read_tolerant_eq_error_iff.mpr ⟨hword, rfl⟩)
      | notFloat htext hnumber =>
        exact complaint?_environment_of_fault (Environment.nameOf_eq _) htext
          (Environment.read_limit_eq_error_iff.mpr ⟨_, hnumber, rfl⟩)
      | notInteger htext hnumber =>
        exact complaint?_environment_of_fault (Environment.nameOf_eq _) htext
          (Environment.read_gate_eq_error_iff.mpr ⟨_, hnumber, rfl⟩)
    · cases hescapes

/-- Of a variable that is not set there is nothing to complain. -/
theorem complaint?_environment_of_unset {f : Field}
    (h : around.env? (Environment.nameOf f) = none) :
    complaint? around file? overrides (.environment f) = none := by
  rw [complaint?, Environment.complaint?, h]
  rfl

theorem complaint?_names_eq_some_iff {t : Trouble} :
    complaint? around file? overrides .names = some t ↔
      Complaint around file? overrides .names t := by
  simp only [complaint?, Option.bind_eq_some_iff, Option.map_eq_some_iff,
    SettingsFile.tables?_eq_some_iff, find?_isUnknown_eq_some_iff]
  constructor
  · rintro ⟨tables, hholds, name, hfirst, rfl⟩
    by_cases hown : name = "self"
    · subst hown
      exact .rejects (.ownName hholds hfirst)
    · rw [nameFault, if_neg hown]
      exact .rejects (.unknownName hholds hfirst hown)
  · rintro (hrejects | hescapes)
    · cases hrejects with
      | unknownName hholds hfirst hown =>
        refine ⟨_, hholds, _, hfirst, ?_⟩
        rw [nameFault, if_neg hown]
        rfl
      | ownName hholds hfirst => exact ⟨_, hholds, _, hfirst, rfl⟩
    · cases hescapes

theorem loadTrouble_invalid (levels : Nat) (f : Field) (v : Value) (reason : String) :
    loadTrouble levels (.invalid f v reason) =
      match v.plainFault? levels with
      | none => .reported (.invalidSetting f.key v reason)
      | some fault => .uncaught (.notShowable fault) := rfl

theorem complaint?_value_eq_some_iff {f : Field} {t : Trouble} :
    complaint? around file? overrides (.value f) = some t ↔
      Complaint around file? overrides (.value f) t := by
  simp only [complaint?, Option.bind_eq_some_iff, Option.map_eq_some_iff,
    SettingsFile.tables?_eq_some_iff, refusal?_eq_some_iff]
  constructor
  · rintro ⟨tables, hholds, fault, hunfit, rfl⟩
    rcases hunfit.fault_cases with ⟨reason, rfl⟩ | ⟨rfl, rfl⟩ | ⟨operator, rfl⟩
    · rw [loadTrouble_invalid]
      split
      · rename_i hfault
        exact .rejects (.invalid hholds hunfit ((Value.plainFault?_eq_none_iff _ _).mp hfault))
      · rename_i hfault
        exact .escapes (.notShowable hholds hunfit hfault)
    · exact .escapes (.noIdentifierTest hholds hunfit)
    · exact .rejects (.incomparable hholds hunfit)
  · rintro (hrejects | hescapes)
    · cases hrejects with
      | incomparable hholds hunfit => exact ⟨_, hholds, _, hunfit, rfl⟩
      | invalid hholds hunfit hshown =>
        refine ⟨_, hholds, _, hunfit, ?_⟩
        rw [loadTrouble_invalid, (Value.plainFault?_eq_none_iff _ _).mpr hshown]
    · cases hescapes with
      | noIdentifierTest hholds hunfit => exact ⟨_, hholds, _, hunfit, rfl⟩
      | notShowable hholds hunfit hfault =>
        refine ⟨_, hholds, _, hunfit, ?_⟩
        rw [loadTrouble_invalid, hfault]

/-- The checks of a stage come upon what is listed, and upon nothing else. -/
theorem complaint?_eq_some_iff (stage : LoadStage) (t : Trouble) :
    complaint? around file? overrides stage = some t ↔
      Complaint around file? overrides stage t := by
  cases stage with
  | call => exact complaint?_call_eq_some_iff
  | presence => exact complaint?_presence_eq_some_iff
  | file w => exact complaint?_file_eq_some_iff
  | environment f => exact complaint?_environment_eq_some_iff
  | names => exact complaint?_names_eq_some_iff
  | value f => exact complaint?_value_eq_some_iff

theorem complaint?_eq_none_iff (stage : LoadStage) :
    complaint? around file? overrides stage = none ↔
      ∀ t, ¬ Complaint around file? overrides stage t := by
  simp only [← complaint?_eq_some_iff, Option.eq_none_iff_forall_ne_some, Ne]

end

/-! ## Loading -/

section

variable (around : Surroundings) (file? : Option Path) (overrides : List (String × Value))

/-- Loading fails with what the first stage finds fault with that finds fault with anything,
whatever is wrong in later stages.  It succeeds just if no stage finds fault, and then every setting
has the value that it comes to. -/
theorem load_first_complaint :
    (∀ t, load around file? overrides = .error t ↔ ∃ before stage after,
      LoadStage.all = before ++ stage :: after ∧ Complaint around file? overrides stage t ∧
        ∀ earlier ∈ before, ∀ t', ¬ Complaint around file? overrides earlier t') ∧
    ((∃ s, load around file? overrides = .ok s) ↔
      ∀ stage t, ¬ Complaint around file? overrides stage t) ∧
    ∀ s, load around file? overrides = .ok s ↔
      (∀ stage t, ¬ Complaint around file? overrides stage t) ∧
        ∃ tables : SettingsFile → OrderedTable Value,
          (∀ w : SettingsFile, w.Holds around file? (tables w)) ∧
            ∀ f, s.get f = settled around overrides tables f := by
  have hsuccess : (∃ s, load around file? overrides = .ok s) ↔
      ∀ stage t, ¬ Complaint around file? overrides stage t := by
    rw [← error?_eq_none_iff, error?_load, List.findSome?_eq_none_iff]
    simp only [complaint?_eq_none_iff]
    exact ⟨fun h stage => h stage (LoadStage.mem_all stage), fun h stage _ => h stage⟩
  refine ⟨?_, hsuccess, ?_⟩
  · intro t
    rw [← error?_eq_some_iff, error?_load, List.findSome?_eq_some_iff]
    simp only [complaint?_eq_some_iff, complaint?_eq_none_iff]
  · intro s
    constructor
    · intro h
      exact ⟨hsuccess.mp ⟨s, h⟩, get_of_load around file? overrides h⟩
    · rintro ⟨hnone, tables, hholds, hvalues⟩
      obtain ⟨s', hs'⟩ := hsuccess.mpr hnone
      obtain ⟨tables', hholds', hvalues'⟩ := get_of_load around file? overrides hs'
      have hsame : s = s' := get_injective <| funext fun f => by
        rw [hvalues, hvalues', SettingsFile.tables_unique hholds' hholds]
      rw [hsame, hs']

end

/-! ## A machine on which everything is wrong -/

/-- A settings file at home with a name that no setting has and a value that does not fit, and more
settings files and a gate that can be chosen. -/
def wrongMachine (project named : Lookup) (gate? : Option String) : Surroundings where
  files.look p :=
    if p.text = "/h/.js-complexity.toml" then
      .found (.file "colour = 1\nimport_callee = 7".toUTF8)
    else if p.text = "/w/js-complexity.toml" then project
    else named
  home := ⟨1, ["h"]⟩
  cwd := ⟨1, ["w"]⟩
  env? name := if name = "JSCX_FAIL_ABOVE" then gate? else none
  runtime := usualRuntime

theorem look_wrongMachine (project named : Lookup) (gate? : Option String) :
    (wrongMachine project named gate?).files.look ⟨1, ["h", ".js-complexity.toml"]⟩ =
        .found (.file "colour = 1\nimport_callee = 7".toUTF8) ∧
      (wrongMachine project named gate?).files.look ⟨1, ["w", "js-complexity.toml"]⟩ = project ∧
      (wrongMachine project named gate?).files.look ⟨1, ["w", "own.toml"]⟩ = named := by
  refine ⟨?_, ?_, ?_⟩ <;> rfl

theorem env?_wrongMachine (project named : Lookup) (gate? : Option String) (f : Field) :
    (wrongMachine project named gate?).env? (Environment.nameOf f) =
      if f = .failAbove then gate? else none := by
  rw [Environment.nameOf_eq]
  cases f <;> rfl

theorem holds_home_wrongMachine (project named : Lookup) (gate? : Option String)
    (file? : Option Path) :
    SettingsFile.home.Holds (wrongMachine project named gate?) file?
      ⟨[("colour", .int 1), ("import_callee", .int 7)]⟩ := by
  have hread : Toml.read usualRuntime.tomlLevels "colour = 1\nimport_callee = 7" =
      .ok [("colour", .int 1), ("import_callee", .int 7)] := by cbv
  exact .toml rfl (look_wrongMachine project named gate?).1 rfl hread

section

variable {file? : Option Path} (overrides : List (String × Value))

/-- The file at home holds a table, whatever its names and values are. -/
theorem complaint?_home_wrongMachine (project named : Lookup) (gate? : Option String) :
    complaint? (wrongMachine project named gate?) file? overrides (.file .home) = none :=
  complaint?_file_of_holds (holds_home_wrongMachine project named gate? file?)

theorem complaint?_project_wrongMachine (named : Lookup) (gate? : Option String) :
    complaint? (wrongMachine .missing named gate?) file? overrides (.file .project) = none :=
  complaint?_file_of_holds (.missing (by decide) rfl (look_wrongMachine .missing named gate?).2.1)

/-- Only the gate can be set on the machine. -/
theorem complaint?_environment_wrongMachine (project named : Lookup) (gate? : Option String)
    {f : Field} (h : f ≠ .failAbove ∨ gate? = none) :
    complaint? (wrongMachine project named gate?) file? overrides (.environment f) = none := by
  refine complaint?_environment_of_unset ((env?_wrongMachine project named gate? f).trans ?_)
  split
  · exact h.resolve_left (absurd ‹_›)
  · rfl

theorem rejects_locked (named : Lookup) (gate? : Option String) :
    Rejects
      (wrongMachine (.found (.regular 10 (.error (.noAccess "/w/js-complexity.toml")))) named gate?)
      file? overrides (.file .project)
      (.configuration ("Invalid config file '/w/js-complexity.toml': "
        ++ "[Errno 13] Permission denied: '/w/js-complexity.toml'")) := by
  have hlook := (look_wrongMachine (.found (.regular 10 (.error (.noAccess
    "/w/js-complexity.toml")))) named gate?).2.1
  have hp : SettingsFile.project.path? (wrongMachine (.found (.regular 10 (.error (.noAccess
    "/w/js-complexity.toml")))) named gate?) file? = some ⟨1, ["w", "js-complexity.toml"]⟩ := rfl
  have htext : (OsError.noAccess "/w/js-complexity.toml").text =
      "[Errno 13] Permission denied: '/w/js-complexity.toml'" := by
    have hquoted := Text.quote_of_isPlain (s := "/w/js-complexity.toml") (by cbv)
    rw [OsError.text, OsError.noAccess, Option.map_some, hquoted]
    cbv
  refine .of_unreadable hp hlook rfl ?_
  rw [htext]
  cbv

theorem rejects_notToml (project : Lookup) (gate? : Option String) :
    Rejects (wrongMachine project (.found (.file "tolerant = = true".toUTF8)) gate?)
      (some ⟨1, ["w", "own.toml"]⟩) overrides (.file .named)
      (.configuration
        "Invalid config file '/w/own.toml': Invalid value (at line 1, column 12)") := by
  have hlook := (look_wrongMachine project (.found (.file "tolerant = = true".toUTF8)) gate?).2.2
  have hread : Toml.read usualRuntime.tomlLevels "tolerant = = true" = .error .malformed := by cbv
  refine .of_notToml rfl hlook rfl hread ?_
  dsimp only [wrongMachine]
  cbv

theorem rejects_gate (project named : Lookup) :
    Rejects (wrongMachine project named (some "many")) file? overrides (.environment .failAbove)
      (.invalidSetting "JSCX_FAIL_ABOVE" (.text "many")
        "invalid literal for int() with base 10: 'many'") := by
  have hread : Numeral.readInt "many" = .error (.notInteger "many") := by cbv
  have hmessage : (NumeralFault.notInteger "many").message =
      "invalid literal for int() with base 10: 'many'" := by
    have hquoted : Text.quote "many" = "'many'" :=
      (Text.quote_of_isPlain (by cbv)).trans (by cbv)
    calc (NumeralFault.notInteger "many").message
      _ = "invalid literal for int() with base 10: "
          ++ String.ofList ((Text.quote "many").toList.take 200) := rfl
      _ = "invalid literal for int() with base 10: "
          ++ String.ofList ("'many'".toList.take 200) := congrArg _ (by rw [hquoted])
      _ = "invalid literal for int() with base 10: 'many'" := by cbv
  exact hmessage ▸ .notInteger rfl hread

theorem rejects_colour (gate? : Option String) :
    Rejects (wrongMachine .missing .missing gate?) none [("output_format", .text "xml")] .names
      (.configuration ("Invalid configuration: "
        ++ "AnalysisConfig.__init__() got an unexpected keyword argument 'colour'")) := by
  have hholds (w : SettingsFile) : w.Holds (wrongMachine .missing .missing gate?) none
      (SettingsFile.pick {} {} ⟨[("colour", .int 1), ("import_callee", .int 7)]⟩ w) := by
    cases w with
    | named => exact .unnamed rfl
    | project => exact .missing (by decide) rfl (look_wrongMachine .missing .missing gate?).2.1
    | home => exact holds_home_wrongMachine _ _ _ _
  have hfirst : FirstUnknown (namesGiven (SettingsFile.pick {} {}
      ⟨[("colour", .int 1), ("import_callee", .int 7)]⟩) [("output_format", .text "xml")])
      "colour" :=
    ⟨[], _, rfl, fun f => by cases f <;> decide, List.forall_mem_nil _⟩
  exact .of_unknownName hholds hfirst (by decide) (by cbv)

end

/-- A file that may not be read, a file that is no TOML, a gate in words, and below all of them the
names and the values.  With each repair the next of them is told. -/
theorem load_first_complaint_wrongMachine :
    let locked : Lookup := .found (.regular 10 (.error (.noAccess "/w/js-complexity.toml")))
    let noToml : Lookup := .found (.file "tolerant = = true".toUTF8)
    let own? : Option Path := some ⟨1, ["w", "own.toml"]⟩
    let overrides := [("output_format", Value.text "xml")]
    load (wrongMachine locked noToml (some "many")) own? overrides =
      .error (.reported (.configuration ("Invalid config file '/w/js-complexity.toml': "
        ++ "[Errno 13] Permission denied: '/w/js-complexity.toml'"))) ∧
    load (wrongMachine .missing noToml (some "many")) own? overrides =
      .error (.reported (.configuration
        "Invalid config file '/w/own.toml': Invalid value (at line 1, column 12)")) ∧
    load (wrongMachine .missing .missing (some "many")) none overrides =
      .error (.reported (.invalidSetting "JSCX_FAIL_ABOVE" (.text "many")
        "invalid literal for int() with base 10: 'many'")) ∧
    load (wrongMachine .missing .missing none) none overrides =
      .error (.reported (.configuration ("Invalid configuration: "
        ++ "AnalysisConfig.__init__() got an unexpected keyword argument 'colour'"))) := by
  intro locked noToml own? overrides
  -- what stands before the fault that is told is sound, by the checks themselves
  have hnone {around : Surroundings} {file? : Option Path} {before : List LoadStage}
      (h : ∀ stage ∈ before, complaint? around file? overrides stage = none) :
      ∀ stage ∈ before, ∀ t, ¬ Complaint around file? overrides stage t :=
    fun stage hstage => (complaint?_eq_none_iff stage).mp (h stage hstage)
  refine ⟨?_, ?_, ?_, ?_⟩
  · refine ((load_first_complaint _ own? overrides).1 _).mpr
      ⟨[.call, .file .home], .file .project, _, rfl,
        .rejects (rejects_locked overrides noToml (some "many")), hnone ?_⟩
    simp only [List.forall_mem_cons, complaint?_home_wrongMachine]
    exact ⟨rfl, trivial, List.forall_mem_nil _⟩
  · refine ((load_first_complaint _ own? overrides).1 _).mpr
      ⟨[.call, .file .home, .file .project, .presence], .file .named, _, rfl,
        .rejects (rejects_notToml overrides .missing (some "many")), hnone ?_⟩
    have hpresence : complaint? (wrongMachine .missing noToml (some "many")) own? overrides
        .presence = none :=
      complaint?_presence_of_found (look_wrongMachine .missing noToml (some "many")).2.2
    simp only [List.forall_mem_cons, complaint?_home_wrongMachine,
      complaint?_project_wrongMachine, hpresence]
    exact ⟨rfl, trivial, trivial, trivial, List.forall_mem_nil _⟩
  · refine ((load_first_complaint _ none overrides).1 _).mpr
      ⟨[.call, .file .home, .file .project, .presence, .file .named, .environment .tolerant,
        .environment .importCallee, .environment .maxFileSizeMb, .environment .outputFormat],
        .environment .failAbove, _, rfl,
        .rejects (rejects_gate overrides .missing .missing), hnone ?_⟩
    simp only [List.forall_mem_cons, complaint?_home_wrongMachine,
      complaint?_project_wrongMachine]
    have hunset {f : Field} (hf : f ≠ .failAbove) :
        complaint? (wrongMachine .missing .missing (some "many")) none overrides
          (.environment f) = none :=
      complaint?_environment_wrongMachine overrides _ _ _ (.inl hf)
    exact ⟨rfl, trivial, trivial, rfl, rfl, hunset (by decide), hunset (by decide),
      hunset (by decide), hunset (by decide), List.forall_mem_nil _⟩
  · refine ((load_first_complaint _ none overrides).1 _).mpr
      ⟨[.call, .file .home, .file .project, .presence, .file .named] ++
        Field.all.map .environment, .names, _, rfl, .rejects (rejects_colour none), hnone ?_⟩
    refine List.forall_mem_append.mpr ⟨?_, List.forall_mem_map.mpr fun f _ => ?_⟩
    · simp only [List.forall_mem_cons, complaint?_home_wrongMachine,
        complaint?_project_wrongMachine]
      exact ⟨rfl, trivial, trivial, rfl, rfl, List.forall_mem_nil _⟩
    · exact complaint?_environment_wrongMachine overrides _ _ _ (.inr rfl)

end Settings

end CodeMetrics
