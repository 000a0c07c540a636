import CodeMetrics.Proofs.Settings.Layers
import CodeMetrics.Proofs.Text.Utf8
import Mathlib

/-!
# The stages of loading settings

Settings are loaded in stages, and every stage can find fault with what a caller
or a machine gives.  Loading fails with the fault of the first stage that finds
one.

* `LoadStage` — the stages;
* **names** — an unknown name is told in the order in which the layers first
  have it (`Settings.unknownKey?_layered`), and values are checked in the order
  of the settings (`Settings.error?_ofTable`);
* `SettingsFile.Holds` — the table that a settings file holds, which is what
  reading it gives (`SettingsFile.read_eq_ok_iff`);
* `Settings.complaint?`, `Settings.error?_load` — what the checks of a stage come
  upon, and that loading fails with the first of these.
-/

namespace CodeMetrics

theorem findSome?_cons_or {α β : Type _} (f : α → Option β) (a : α) (l : List α) :
    (a :: l).findSome? f = (f a).or (l.findSome? f) := by
  rw [List.findSome?_cons]
  cases f a <;> rfl

/-! ## What the environment complains of -/

namespace Environment

/-- The failure that a variable is whose text cannot be read. -/
def complaint? (env? : String → Option String) (f : Field) : Option Failure :=
  (env? (nameOf f)).bind fun text => (error? (read f text)).map fun fault =>
    .invalidSetting (nameOf f) (.text text) fault.message

/-- Variables are read up to the first that cannot be read. -/
theorem error?_layerOf (env? : String → Option String) (fields : List Field) :
    error? (layerOf env? fields) = fields.findSome? (complaint? env?) := by
  induction fields with
  | nil => rfl
  | cons f rest ih =>
    rw [layerOf, findSome?_cons_or, complaint?, ← ih]
    cases henv : env? (nameOf f) with
    | none => rfl
    | some text =>
      cases hread : read f text with
      | error fault => simp [hread]
      | ok v => simp [hread, error?_map]

theorem error?_layer (env? : String → Option String) :
    error? (layer env?) = Field.all.findSome? (complaint? env?) := by
  rw [layer, error?_map, error?_layerOf]

end Environment

namespace Settings

/-! ## Names -/

/-- No setting has the name. -/
def isUnknown (name : String) : Bool := (Field.ofKey? name).isNone

theorem isUnknown_key (f : Field) : isUnknown f.key = false := by
  rw [isUnknown, Field.ofKey?_key]
  rfl

theorem ne_key_of_isUnknown {name : String} (h : isUnknown name = true) (f : Field) :
    name ≠ f.key := by
  rintro rfl
  rw [isUnknown_key] at h
  cases h

theorem unknownKey?_eq (t : OrderedTable Value) : unknownKey? t = t.keys.find? isUnknown := rfl

/-- A table written over another brings its unknown names behind those that are there. -/
theorem unknownKey?_update (t : OrderedTable Value) {u : OrderedTable Value}
    (distinct : u.keys.Nodup) :
    unknownKey? (t.update u) = (unknownKey? t).or (unknownKey? u) := by
  rw [unknownKey?_eq, unknownKey?_eq u, OrderedTable.keys_update t distinct, List.find?_append,
    List.find?_filter]
  refine or_congr_of_none fun hnone => ?_
  -- where all names of the first table are known, none of them hides an unknown one of the second
  refine List.find?_congr fun name _ => ?_
  by_cases hname : isUnknown name = true
  · have hnew : name ∉ t.keys := fun hmem => List.find?_eq_none.mp hnone name hmem hname
    simp [hname, hnew]
  · simp [hname]

/-- The environment gives values to settings only. -/
theorem unknownKey?_layer {env? : String → Option String} {t : OrderedTable Value}
    (h : Environment.layer env? = .ok t) : unknownKey? t = none := by
  unfold Environment.layer at h
  cases hread : Environment.layerOf env? Field.all with
  | error e =>
    rw [hread] at h
    cases h
  | ok es =>
    rw [hread] at h
    cases h
    rw [unknownKey?_eq, List.find?_eq_none]
    intro name hname
    obtain ⟨f, _, rfl⟩ := List.mem_map.mp ((Environment.keys_layerOf hread).subset hname)
    simp [isUnknown_key]

/-- Whether a caller gives a value under a name that is no flag. -/
def gives (overrides : List (String × Value)) (name : String) : Bool :=
  name != "verbose" && name != "quiet" && (given? overrides name).any (fun v => !v.isNull)

theorem filter_isUnknown_applyFlag (flag : String) (v : Verbosity) (t : OrderedTable Value) :
    (applyFlag flag v t).keys.filter isUnknown =
      (t.keys.filter isUnknown).filter (· != flag) := by
  have herase : (t.erase flag).keys.filter isUnknown =
      (t.keys.filter isUnknown).filter (· != flag) := by
    rw [OrderedTable.keys_erase, List.filter_filter, List.filter_filter]
    exact List.filter_congr fun _ _ => Bool.and_comm _ _
  unfold applyFlag
  dsimp only
  split
  · -- the verbosity that a flag stands for is a setting
    rw [OrderedTable.keys_insert]
    split
    · exact herase
    · rw [List.filter_append, herase, List.filter_cons_of_neg (by simp [isUnknown_key]),
        List.filter_nil, List.append_nil]
  · exact herase

/-- The unknown names that a caller gives come in the order in which they are first given. -/
theorem unknownKey?_overrideLayer (overrides : List (String × Value)) :
    unknownKey? (overrideLayer overrides) =
      (overrides.map (·.1)).find? (fun name => gives overrides name && isUnknown name) := by
  let t := applyFlag "quiet" .quiet (applyFlag "verbose" .verbose (OrderedTable.ofList overrides))
  have hkeys : (overrideLayer overrides).keys =
      t.keys.filter (fun name => (t.get? name).any (fun v => !v.isNull)) :=
    OrderedTable.keys_filter (nodup_keys_flagged overrides) (fun v => !v.isNull)
  have hget : ∀ name, isUnknown name = true → name ≠ "verbose" → name ≠ "quiet" →
      t.get? name = given? overrides name := by
    intro name hname hverbose hquiet
    have hverbosity : name ≠ Field.verbosity.key := ne_key_of_isUnknown hname .verbosity
    show (applyFlag _ _ (applyFlag _ _ _)).get? name = _
    rw [get?_applyFlag hquiet, if_neg (fun h => hverbosity h.1), get?_applyFlag hverbose,
      if_neg (fun h => hverbosity h.1), OrderedTable.get?_ofList]
    rfl
  have hunknown : t.keys.filter isUnknown =
      (((overrides.map (·.1)).eraseDups.filter isUnknown).filter (· != "verbose")).filter
        (· != "quiet") := by
    show (applyFlag _ _ (applyFlag _ _ _)).keys.filter isUnknown = _
    rw [filter_isUnknown_applyFlag, filter_isUnknown_applyFlag, OrderedTable.keys_ofList]
  calc
    unknownKey? (overrideLayer overrides)
      = ((t.keys.filter isUnknown).filter
          (fun name => (t.get? name).any (fun v => !v.isNull))).head? := by
        rw [unknownKey?_eq, hkeys, ← List.head?_filter, List.filter_filter, List.filter_filter]
        simp only [Bool.and_comm]
    _ = ((overrides.map (·.1)).eraseDups.filter
          (fun name => gives overrides name && isUnknown name)).head? := by
        rw [hunknown]
        simp only [List.filter_filter]
        congr 1
        refine List.filter_congr fun name _ => ?_
        unfold gives
        by_cases hname : isUnknown name = true
        · by_cases hverbose : name = "verbose"
          · simp [hverbose]
          · by_cases hquiet : name = "quiet"
            · simp [hquiet]
            · rw [hget name hname hverbose hquiet]
              ac_rfl
        · simp [hname]
    _ = (overrides.map (·.1)).find? (fun name => gives overrides name && isUnknown name) := by
        rw [List.head?_filter, OrderedTable.find?_eraseDups]

/-- The names in the order of the layers: those of the files, and those under which the caller gives
a value. -/
def namesGiven (tables : SettingsFile → OrderedTable Value) (overrides : List (String × Value)) :
    List String :=
  (tables .home).keys ++ (tables .project).keys ++ (tables .named).keys ++
    (overrides.map (·.1)).filter (gives overrides)

/-- No layer hides an unknown name of another. -/
theorem unknownKey?_layered {tables : SettingsFile → OrderedTable Value}
    (distinct : ∀ w, (tables w).keys.Nodup) {env? : String → Option String}
    {environment : OrderedTable Value} (henv : Environment.layer env? = .ok environment)
    (overrides : List (String × Value)) :
    unknownKey? (layered tables environment overrides) =
      (namesGiven tables overrides).find? isUnknown := by
  have hoverrides : unknownKey? (overrideLayer overrides) =
      ((overrides.map (·.1)).filter (gives overrides)).find? isUnknown := by
    rw [unknownKey?_overrideLayer, List.find?_filter]
    simp
  unfold layered namesGiven
  rw [unknownKey?_update _ (nodup_keys_overrideLayer overrides),
    unknownKey?_update _ (Environment.layer_spec henv).1, unknownKey?_layer henv, Option.or_none,
    unknownKey?_update _ (distinct .named), unknownKey?_update _ (distinct .project), hoverrides]
  simp only [List.find?_append, unknownKey?_eq]

/-! ## Checks -/

/-- Why a setting is refused a value, if it is. -/
def refusal? (f : Field) (v : Value) : Option SettingsFault :=
  match f with
  | .tolerant => none
  | .importCallee => error? (checkCallee v)
  | .maxFileSizeMb => error? (checkLimit v)
  | .outputFormat => error? (checkFormat v)
  | .failAbove => error? (checkGate v)
  | .verbosity => error? (checkVerbosity v)

/-- The fault of a name that is no setting. -/
def nameFault (name : String) : SettingsFault :=
  if name = "self" then .ownName name else .unknown name

/-- An unknown name is refused before any value is looked at, and values are refused in the order of
the settings. -/
theorem error?_ofTable (t : OrderedTable Value) :
    error? (ofTable t) = ((unknownKey? t).map nameFault).or
      (Field.all.findSome? fun f => refusal? f (lookup t f)) := by
  unfold ofTable
  cases unknownKey? t with
  | some name => rfl
  | none =>
    simp only [Field.all, findSome?_cons_or, List.findSome?_nil]
    show error? (_ >>= _) = Option.or none _
    rw [Option.none_or]
    show _ = (error? (checkCallee _)).or _
    refine error?_bind fun _ _ => ?_
    refine error?_bind fun _ _ => ?_
    refine error?_bind fun _ _ => ?_
    refine error?_bind fun _ _ => ?_
    exact error?_bind fun _ _ => rfl

end Settings

/-! ## Stages -/

/-- What is looked at, one after the other, when settings are loaded. -/
inductive LoadStage where
  /-- The keywords of the call. -/
  | call
  /-- Whether the file that the caller names is there. -/
  | presence
  /-- What stands at the path of a file, if anything does. -/
  | file (w : SettingsFile)
  /-- The text of the variable of a setting. -/
  | environment (f : Field)
  /-- The names in all layers. -/
  | names
  /-- The value that a setting comes to. -/
  | value (f : Field)
deriving DecidableEq

/-- The stages in their order. -/
def LoadStage.all : List LoadStage :=
  [call, file .home, file .project, presence, file .named] ++ Field.all.map environment ++
    [names] ++ Field.all.map value

theorem LoadStage.mem_all (stage : LoadStage) : stage ∈ all := by
  cases stage with
  | file w => cases w <;> decide
  | environment f => cases f <;> decide
  | value f => cases f <;> decide
  | _ => decide

/-! ## Tables of files -/

theorem Settings.decode_text (text : String) : Utf8.decode text.toUTF8 = .ok text :=
  Utf8.decode_eq_ok_iff.mpr rfl

namespace SettingsFile

/-- Where the file stands, if there is one. -/
def path? (around : Surroundings) (file? : Option Path) : SettingsFile → Option Path
  | named => file?
  | project => some (Settings.projectFile around)
  | home => some (Settings.homeFile around)

/-- The table that a settings file holds.  A file that need not be there holds nothing if it is not,
and no other file than one of TOML holds a table. -/
inductive Holds (around : Surroundings) (file? : Option Path) (w : SettingsFile) :
    OrderedTable Value → Prop
  | unnamed : w.path? around file? = none → Holds around file? w {}
  | missing {p : Path} : w ≠ named → w.path? around file? = some p →
      around.files.look p = .missing → Holds around file? w {}
  | toml {p : Path} {entry : Entry} {text : String} {entries : Toml.Entries} :
      w.path? around file? = some p → around.files.look p = .found entry →
      entry.content = .ok text.toUTF8 → Toml.read around.runtime.tomlLevels text = .ok entries →
      Holds around file? w ⟨entries⟩

variable {around : Surroundings} {file? : Option Path} {w : SettingsFile}

/-- An entry gives a table just if its bytes encode a text that describes it. -/
theorem entryLayer_eq_ok_iff {runtime : Runtime} {p : Path} {entry : Entry}
    {t : OrderedTable Value} :
    Settings.entryLayer runtime p entry = .ok t ↔ ∃ (text : String) (entries : Toml.Entries),
      entry.content = .ok text.toUTF8 ∧ Toml.read runtime.tomlLevels text = .ok entries ∧
        t = ⟨entries⟩ := by
  unfold Settings.entryLayer
  constructor
  · intro h
    split at h
    · cases h
    · rename_i bytes hcontent
      split at h
      · cases h
      · rename_i text hdecode
        split at h <;> cases h
        rename_i entries hread
        rw [← Utf8.decode_eq_ok_iff.mp hdecode] at hcontent
        exact ⟨text, entries, hcontent, hread, rfl⟩
  · rintro ⟨text, entries, hcontent, hread, rfl⟩
    simp only [hcontent, Settings.decode_text, hread]

theorem read_of_path {p : Path} (hw : w ≠ named) (hp : w.path? around file? = some p) :
    w.read around file? = Settings.fileLayer around p := by
  cases w with
  | named => exact absurd rfl hw
  | project => cases hp; rfl
  | home => cases hp; rfl

theorem read_of_found {p : Path} {entry : Entry} (hp : w.path? around file? = some p)
    (hlook : around.files.look p = .found entry) :
    w.read around file? = Settings.entryLayer around.runtime p entry := by
  by_cases hw : w = named
  · subst hw
    have hfile : file? = some p := hp
    rw [read, hfile, Settings.namedLayer, hlook]
  · rw [read_of_path hw hp, Settings.fileLayer, hlook]

/-- Reading a file gives the table that it holds. -/
theorem read_of_holds {t : OrderedTable Value} (h : w.Holds around file? t) :
    w.read around file? = .ok t := by
  cases h with
  | unnamed hp =>
    cases w with
    | named =>
      have hfile : file? = none := hp
      rw [read, hfile]
      rfl
    | project => cases hp
    | home => cases hp
  | missing hw hp hlook => rw [read_of_path hw hp, Settings.fileLayer, hlook]
  | toml hp hlook hcontent hread =>
    rw [read_of_found hp hlook, entryLayer_eq_ok_iff]
    exact ⟨_, _, hcontent, hread, rfl⟩

/-- A file is read just if it holds a table. -/
theorem read_eq_ok_iff {t : OrderedTable Value} :
    w.read around file? = .ok t ↔ w.Holds around file? t := by
  refine ⟨fun h => ?_, read_of_holds⟩
  cases hp : w.path? around file? with
  | none =>
    have hread := read_of_holds (Holds.unnamed hp)
    rw [h] at hread
    cases hread
    exact .unnamed hp
  | some p =>
    cases hlook : around.files.look p with
    | missing =>
      by_cases hw : w = named
      · subst hw
        have hfile : file? = some p := hp
        rw [read, hfile, Settings.namedLayer, hlook] at h
        cases h
      · have hread := read_of_holds (Holds.missing hw hp hlook)
        rw [h] at hread
        cases hread
        exact .missing hw hp hlook
    | refused e =>
      cases w <;> cases hp <;>
        simp [read, Settings.namedLayer, Settings.fileLayer, hlook] at h
    | found entry =>
      rw [read_of_found hp hlook, entryLayer_eq_ok_iff] at h
      obtain ⟨text, entries, hcontent, hread, rfl⟩ := h
      exact .toml hp hlook hcontent hread

/-- No file holds two tables. -/
theorem tables_unique {tables tables' : SettingsFile → OrderedTable Value}
    (h : ∀ w : SettingsFile, w.Holds around file? (tables w))
    (h' : ∀ w : SettingsFile, w.Holds around file? (tables' w)) : tables = tables' :=
  funext fun w => Except.ok.inj ((read_of_holds (h w)).symm.trans (read_of_holds (h' w)))

/-- Where no files stand and none is named, all of them hold nothing. -/
theorem holds_of_missing (hhome : around.files.look (Settings.homeFile around) = .missing)
    (hproject : around.files.look (Settings.projectFile around) = .missing) (w : SettingsFile) :
    w.Holds around none {} := by
  cases w with
  | named => exact .unnamed rfl
  | project => exact .missing (by decide) rfl hproject
  | home => exact .missing (by decide) rfl hhome

/-- The tables of all files, if they can be read. -/
def tables? (around : Surroundings) (file? : Option Path) :
    Option (SettingsFile → OrderedTable Value) :=
  match home.read around file?, project.read around file?, named.read around file? with
  | .ok ofHome, .ok ofProject, .ok ofNamed => some (pick ofNamed ofProject ofHome)
  | _, _, _ => none

theorem tables?_of_read {tables : SettingsFile → OrderedTable Value}
    (h : ∀ w : SettingsFile, w.read around file? = .ok (tables w)) :
    tables? around file? = some tables := by
  rw [tables?, h, h, h]
  exact congrArg some (funext fun w => by cases w <;> rfl)

theorem tables?_eq_some_iff {tables : SettingsFile → OrderedTable Value} :
    tables? around file? = some tables ↔ ∀ w : SettingsFile, w.Holds around file? (tables w) := by
  simp only [← read_eq_ok_iff]
  refine ⟨fun h => ?_, tables?_of_read⟩
  unfold tables? at h
  split at h
  · rename_i hhome hproject hnamed
    cases h
    exact Settings.reads_pick hnamed hproject hhome
  · cases h

end SettingsFile

namespace Settings

/-- The value that a setting comes to: that of the highest layer which gives it one, or else its
default. -/
def settled (around : Surroundings) (overrides : List (String × Value))
    (tables : SettingsFile → OrderedTable Value) (f : Field) : Value :=
  (decided? overrides around.env? tables f).getD (Settings.get {} f)

/-! ## What the checks of a stage come upon -/

/-- The fault found with what stands at the path of a settings file.  Nothing need stand there. -/
def lookupComplaint? (runtime : Runtime) (p : Path) : Lookup → Option Trouble
  | .missing => none
  | .refused e => some (.uncaught (.os e))
  | .found entry => error? (entryLayer runtime p entry)

/-- What the checks of a stage come upon, whatever those of the other stages do.  Names and values
are looked at where the files hold tables. -/
def complaint? (around : Surroundings) (file? : Option Path) (overrides : List (String × Value)) :
    LoadStage → Option Trouble
  | .call => error? (refuseFileKey "js_complexity.config.load_config" overrides)
  | .presence => file?.bind fun p =>
      match around.files.look p with
      | .missing => some (.reported (.configuration s!"Config file not found: {p.text}"))
      | _ => none
  | .file w => (w.path? around file?).bind fun p =>
      lookupComplaint? around.runtime p (around.files.look p)
  | .environment f => (Environment.complaint? around.env? f).map .reported
  | .names => (SettingsFile.tables? around file?).bind fun tables =>
      ((namesGiven tables overrides).find? isUnknown).map fun name =>
        loadTrouble around.runtime.shownLevels (nameFault name)
  | .value f => (SettingsFile.tables? around file?).bind fun tables =>
      (refusal? f (settled around overrides tables f)).map (loadTrouble around.runtime.shownLevels)

section

variable (around : Surroundings) (file? : Option Path) (overrides : List (String × Value))

theorem error?_fileLayer (p : Path) :
    error? (fileLayer around p) = lookupComplaint? around.runtime p (around.files.look p) := by
  unfold fileLayer lookupComplaint?
  cases around.files.look p <;> rfl

/-- A file that a caller names must be there, and then it must be sound. -/
theorem error?_namedLayer : error? (namedLayer around file?) =
    (complaint? around file? overrides .presence).or
      (complaint? around file? overrides (.file .named)) := by
  cases file? with
  | none => rfl
  | some p =>
    simp only [complaint?, SettingsFile.path?, Option.bind_some, namedLayer]
    cases around.files.look p <;> rfl

/-- Loading fails with the complaint of the first stage that has one. -/
theorem error?_load : error? (load around file? overrides) =
    LoadStage.all.findSome? (complaint? around file? overrides) := by
  -- the named file is missed, and then read, in one step
  have hnamed (later : Option Trouble) : (complaint? around file? overrides .presence).or
      ((complaint? around file? overrides (.file .named)).or later) =
        (error? (SettingsFile.named.read around file?)).or later := by
    rw [← Option.or_assoc, ← error?_namedLayer]
    rfl
  have hproject : complaint? around file? overrides (.file .project) =
      error? (SettingsFile.project.read around file?) :=
    (error?_fileLayer around (projectFile around)).symm
  have hhome : complaint? around file? overrides (.file .home) =
      error? (SettingsFile.home.read around file?) :=
    (error?_fileLayer around (homeFile around)).symm
  -- and so are the variables
  have henv : (Field.all.map LoadStage.environment).findSome? (complaint? around file? overrides) =
      error? ((Environment.layer around.env?).mapError .reported : Except Trouble _) := by
    rw [error?_mapError, Environment.error?_layer, List.findSome?_map, List.map_findSome?]
    rfl
  rw [load_eq, LoadStage.all]
  simp only [List.cons_append, List.nil_append, findSome?_cons_or, List.findSome?_append,
    List.append_assoc]
  rw [hhome, hproject, henv, hnamed]
  refine error?_bind fun _ _ => error?_bind fun home hhome => error?_bind fun project hproject =>
    error?_bind fun named hnamed => error?_bind fun environment henvironment => ?_
  -- where all of them can be read, the tables of the files are those of the stages behind
  have hread := reads_pick hnamed hproject hhome
  have htables := SettingsFile.tables?_of_read hread
  generalize SettingsFile.pick named project home = tables at hread htables ⊢
  have hlayer := eq_ok_of_mapError henvironment
  have distinct : ∀ w, (tables w).keys.Nodup := fun w => nodup_keys_read (hread w)
  have hvalue : ∀ f, lookup (layered tables environment overrides) f =
      settled around overrides tables f := by
    intro f
    rw [lookup, get?_layered distinct hlayer, settled]
  rw [error?_mapError, error?_ofTable, unknownKey?_layered distinct hlayer, Option.map_or,
    Option.map_map, List.findSome?_map]
  simp only [hvalue, List.map_findSome?, Function.comp_def, complaint?, htables, Option.bind_some]

/-! ## Loading -/

/-- Settings are known by the values they have. -/
theorem get_injective : Function.Injective Settings.get := by
  intro s s' h
  have quantity_inj : ∀ {p q : Quantity}, p.toValue = q.toValue → p = q := by
    intro p q hpq
    simpa using congrArg Quantity.ofValue? hpq
  obtain ⟨tolerant, callee, limit, format, gate, verbosity⟩ := s
  obtain ⟨tolerant', callee', limit', format', gate', verbosity'⟩ := s'
  have htolerant : tolerant = tolerant' := congrFun h .tolerant
  have hcallee : callee = callee' := Value.text.inj (congrFun h .importCallee)
  have hlimit : limit = limit' := quantity_inj (congrFun h .maxFileSizeMb)
  have hformat : format = format' := by
    have hname : format.name = format'.name := Value.text.inj (congrFun h .outputFormat)
    revert hname
    cases format <;> cases format' <;> decide
  have hverbosity : verbosity = verbosity' := by
    have hname : verbosity.name = verbosity'.name := Value.text.inj (congrFun h .verbosity)
    revert hname
    cases verbosity <;> cases verbosity' <;> decide
  have hgate : gate = gate' := by
    have hvalue : (gate.map Quantity.toValue).getD .null =
        (gate'.map Quantity.toValue).getD .null := congrFun h .failAbove
    cases gate with
    | none =>
      cases gate' with
      | none => rfl
      | some q => cases q <;> cases hvalue
    | some p =>
      cases gate' with
      | none => cases p <;> cases hvalue
      | some q => exact congrArg some (quantity_inj hvalue)
  rw [htolerant, hcallee, hlimit, hformat, hgate, hverbosity]

theorem get_of_load {s : Settings} (h : load around file? overrides = .ok s) :
    ∃ tables : SettingsFile → OrderedTable Value,
      (∀ w : SettingsFile, w.Holds around file? (tables w)) ∧
        ∀ f, s.get f = settled around overrides tables f := by
  obtain ⟨tables, hread, hget⟩ := exists_tables_of_load h
  exact ⟨tables, fun w => SettingsFile.read_eq_ok_iff.mp (hread w), hget⟩

end

end Settings

end CodeMetrics
