import CodeMetrics.Proofs.Settings.Checks
import CodeMetrics.Proofs.Toml.Keys
import CodeMetrics.Settings.Load
import Mathlib

/-!
# Which layer decides a setting

Settings are loaded by writing layers over each other and checking what comes
out.  Here the layers are looked at from the top: a setting has the value of the
highest layer that gives it one.

* `Settings.overriding?`, `Environment.value?`, `SettingsFile.read` — what a
  caller, the environment and a settings file give;
* **values** — the table of all layers holds under a name what the highest layer
  holds (`Settings.get?_layered`), and settings that pass the checks have the
  values of that table (`Settings.get_of_ofTable`);
* **shadows** — the checks look at the names of the table and at the values of
  the settings, and at nothing else (`Settings.ofTable_congr`), so a value below
  the deciding layer can be any value (`Settings.load_by_rank`).
-/

namespace CodeMetrics

theorem or_congr_of_none {α : Type _} {o p q : Option α} (h : o = none → p = q) :
    o.or p = o.or q := by
  cases o with
  | none => rw [h rfl]
  | some a => rfl

theorem Field.key_injective : Function.Injective Field.key := by
  intro f g h
  have hf := Field.ofKey?_key f
  rw [h, Field.ofKey?_key g, Option.some.injEq] at hf
  exact hf.symm

/-! ## What a caller gives -/

namespace Settings

/-- The last value that a caller gives under a name. -/
def given? (overrides : List (String × Value)) (name : String) : Option Value :=
  ((overrides.filter (fun e => e.1 == name)).getLast?).map (·.2)

/-- Whether a caller sets a flag. -/
def flagged (overrides : List (String × Value)) (flag : String) : Bool :=
  ((given? overrides flag).map Value.truthy).getD false

/-- The value that a caller gives a setting.  The flag `quiet` stands for a verbosity, and so does
`verbose` where `quiet` is not set; both go before a verbosity that is given.  Giving no value is
giving nothing. -/
def overriding? (overrides : List (String × Value)) (f : Field) : Option Value :=
  if f = .verbosity ∧ flagged overrides "quiet" then some (.text Verbosity.quiet.name)
  else if f = .verbosity ∧ flagged overrides "verbose" then some (.text Verbosity.verbose.name)
  else (given? overrides f.key).filter (fun v => !v.isNull)

theorem get?_applyFlag {flag key : String} (hkey : key ≠ flag) (v : Verbosity)
    (t : OrderedTable Value) :
    (applyFlag flag v t).get? key =
      if key = Field.verbosity.key ∧ ((t.get? flag).map Value.truthy).getD false then
        some (.text v.name)
      else t.get? key := by
  unfold applyFlag
  dsimp only
  by_cases hset : ((t.get? flag).map Value.truthy).getD false = true
  · rw [if_pos hset, OrderedTable.get?_insert, OrderedTable.get?_erase, if_neg hkey]
    simp only [hset, and_true]
  · rw [if_neg hset, OrderedTable.get?_erase, if_neg hkey, if_neg (fun h => hset h.2)]

theorem nodup_keys_applyFlag {t : OrderedTable Value} (h : t.keys.Nodup) (flag : String)
    (v : Verbosity) : (applyFlag flag v t).keys.Nodup := by
  have herase : (t.erase flag).keys.Nodup := OrderedTable.nodup_keys_filter h _
  unfold applyFlag
  dsimp only
  split
  · exact OrderedTable.nodup_keys_insert herase _ _
  · exact herase

theorem nodup_keys_flagged (overrides : List (String × Value)) :
    (applyFlag "quiet" .quiet
      (applyFlag "verbose" .verbose (OrderedTable.ofList overrides))).keys.Nodup :=
  nodup_keys_applyFlag (nodup_keys_applyFlag (OrderedTable.nodup_keys_ofList overrides) _ _) _ _

theorem nodup_keys_overrideLayer (overrides : List (String × Value)) :
    (overrideLayer overrides).keys.Nodup :=
  OrderedTable.nodup_keys_filter (nodup_keys_flagged overrides) _

/-- The top layer gives a setting what the caller gives it. -/
theorem get?_overrideLayer (overrides : List (String × Value)) (f : Field) :
    (overrideLayer overrides).get? f.key = overriding? overrides f := by
  have hquiet : f.key ≠ "quiet" := by cases f <;> decide
  have hverbose : f.key ≠ "verbose" := by cases f <;> decide
  have hverbosity : f.key = Field.verbosity.key ↔ f = .verbosity :=
    Field.key_injective.eq_iff
  have hgiven : ∀ name, (OrderedTable.ofList overrides).get? name = given? overrides name :=
    OrderedTable.get?_ofList overrides
  -- neither flag is touched by the other
  have hflag : (applyFlag "verbose" .verbose (OrderedTable.ofList overrides)).get? "quiet" =
      given? overrides "quiet" := by
    rw [get?_applyFlag (by decide), if_neg (fun h => absurd h.1 (by decide)), hgiven]
  unfold overrideLayer
  dsimp only
  rw [OrderedTable.get?_filter (nodup_keys_flagged overrides) (fun v => !v.isNull),
    get?_applyFlag hquiet, get?_applyFlag hverbose, hflag, hgiven, hgiven]
  simp only [hverbosity]
  unfold overriding? flagged
  split
  · rfl
  · split
    · rfl
    · rfl

end Settings

/-! ## What the environment gives -/

namespace Environment

/-- The value that the environment gives a setting. -/
def value? (env? : String → Option String) (f : Field) : Option Value :=
  (env? (nameOf f)).bind (fun text => (read f text).toOption)

theorem layerOf_cons_cases {env? : String → Option String} {f : Field} {rest : List Field}
    {es : List (String × Value)} (h : layerOf env? (f :: rest) = .ok es) :
    (env? (nameOf f) = none ∧ layerOf env? rest = .ok es) ∨
      ∃ text v later, env? (nameOf f) = some text ∧ read f text = .ok v ∧
        layerOf env? rest = .ok later ∧ es = (f.key, v) :: later := by
  rw [layerOf] at h
  split at h
  · rename_i hnone
    exact .inl ⟨hnone, h⟩
  · rename_i text htext
    split at h
    · cases h
    · rename_i v hread
      cases hrest : layerOf env? rest with
      | error e =>
        rw [hrest] at h
        cases h
      | ok later =>
        rw [hrest] at h
        cases h
        exact .inr ⟨text, v, later, htext, hread, rfl, rfl⟩

/-- The entries stand in the order of the settings. -/
theorem keys_layerOf {env? : String → Option String} {fields : List Field}
    {es : List (String × Value)} (h : layerOf env? fields = .ok es) :
    (OrderedTable.mk es).keys.Sublist (fields.map Field.key) := by
  induction fields generalizing es with
  | nil =>
    cases h
    exact List.Sublist.refl _
  | cons f rest ih =>
    rcases layerOf_cons_cases h with ⟨_, hrest⟩ | ⟨_, _, later, _, _, hrest, rfl⟩
    · exact (ih hrest).cons _
    · exact (ih hrest).cons_cons _

/-- A setting whose variable is set has a value. -/
theorem isSome_value?_of_layerOf {env? : String → Option String} {fields : List Field}
    {es : List (String × Value)} (h : layerOf env? fields = .ok es) {f : Field} (hf : f ∈ fields)
    (hset : (env? (nameOf f)).isSome) : (value? env? f).isSome := by
  induction fields generalizing es with
  | nil => exact absurd hf List.not_mem_nil
  | cons g rest ih =>
    rcases layerOf_cons_cases h with ⟨hnone, hrest⟩ | ⟨text, v, later, htext, hread, hrest, _⟩
    · rcases List.mem_cons.mp hf with rfl | hmem
      · rw [hnone] at hset
        cases hset
      · exact ih hrest hmem
    · rcases List.mem_cons.mp hf with rfl | hmem
      · unfold value?
        rw [htext, Option.bind_some, hread]
        rfl
      · exact ih hrest hmem

theorem get?_layerOf {env? : String → Option String} {fields : List Field}
    (distinct : fields.Nodup) {es : List (String × Value)} (h : layerOf env? fields = .ok es)
    {f : Field} (hf : f ∈ fields) : (OrderedTable.mk es).get? f.key = value? env? f := by
  induction fields generalizing es with
  | nil => exact absurd hf List.not_mem_nil
  | cons g rest ih =>
    obtain ⟨hhead, hdistinct⟩ := List.nodup_cons.mp distinct
    rcases layerOf_cons_cases h with ⟨hnone, hrest⟩ | ⟨text, v, later, htext, hread, hrest, rfl⟩
    · rcases List.mem_cons.mp hf with rfl | hmem
      · -- no later setting has the same name
        have hnot : f.key ∉ (OrderedTable.mk es).keys := by
          intro hkey
          obtain ⟨e, he, hsame⟩ := List.mem_map.mp ((keys_layerOf hrest).subset hkey)
          exact hhead (Field.key_injective hsame ▸ he)
        rw [OrderedTable.get?_eq_none hnot]
        unfold value?
        rw [hnone, Option.bind_none]
      · exact ih hdistinct hrest hmem
    · rcases List.mem_cons.mp hf with rfl | hmem
      · unfold value?
        rw [htext, Option.bind_some, hread]
        simp [OrderedTable.get?, Except.toOption]
      · have hne : g.key ≠ f.key := fun hkey => hhead (Field.key_injective hkey ▸ hmem)
        rw [← ih hdistinct hrest hmem]
        unfold OrderedTable.get?
        rw [List.find?_cons_of_neg (by simpa using hne)]

theorem mem_all (f : Field) : f ∈ Field.all := by cases f <;> decide

/-- What a layer of the environment says, from the variables. -/
theorem layer_spec {env? : String → Option String} {t : OrderedTable Value}
    (h : layer env? = .ok t) :
    t.keys.Nodup ∧ ∀ f, t.get? f.key = value? env? f ∧
      ((env? (nameOf f)).isSome → (value? env? f).isSome) := by
  unfold layer at h
  cases hread : layerOf env? Field.all with
  | error e =>
    rw [hread] at h
    cases h
  | ok es =>
    rw [hread] at h
    cases h
    have hkeys : (Field.all.map Field.key).Nodup := by decide
    refine ⟨hkeys.sublist (keys_layerOf hread), ?_⟩
    intro f
    exact ⟨get?_layerOf (by decide) hread (mem_all f), isSome_value?_of_layerOf hread (mem_all f)⟩

end Environment

/-! ## What files give -/

/-- The settings files, the one that overrides the others first. -/
inductive SettingsFile where
  | named
  | project
  | home
deriving DecidableEq

namespace SettingsFile

/-- The files that override a file. -/
def above : SettingsFile → List SettingsFile
  | named => []
  | project => [named]
  | home => [named, project]

/-- One table for each file. -/
def pick {α : Type _} (ofNamed ofProject ofHome : α) : SettingsFile → α
  | named => ofNamed
  | project => ofProject
  | home => ofHome

/-- The table that a file gives. -/
def read (around : Surroundings) (file? : Option Path) :
    SettingsFile → Except Trouble (OrderedTable Value)
  | named => Settings.namedLayer around file?
  | project => Settings.fileLayer around (Settings.projectFile around)
  | home => Settings.fileLayer around (Settings.homeFile around)

end SettingsFile

namespace Settings

theorem nodup_keys_entryLayer {runtime : Runtime} {p : Path} {e : Entry} {t : OrderedTable Value}
    (h : entryLayer runtime p e = .ok t) : t.keys.Nodup := by
  unfold entryLayer at h
  split at h
  · cases h
  · split at h
    · cases h
    · split at h
      · cases h
      · cases h
      · cases h
      · rename_i hread
        cases h
        exact Toml.distinctKeys_read hread

/-- No table that a file gives has a name twice. -/
theorem nodup_keys_read {around : Surroundings} {file? : Option Path} {w : SettingsFile}
    {t : OrderedTable Value} (h : w.read around file? = .ok t) : t.keys.Nodup := by
  have hfile : ∀ {p : Path}, fileLayer around p = .ok t → t.keys.Nodup := by
    intro p h
    unfold fileLayer at h
    split at h
    · cases h
      exact List.nodup_nil
    · cases h
    · exact nodup_keys_entryLayer h
  cases w with
  | home => exact hfile h
  | project => exact hfile h
  | named =>
    have h : namedLayer around file? = .ok t := h
    unfold namedLayer at h
    split at h
    · cases h
      exact List.nodup_nil
    · split at h
      · cases h
      · cases h
      · exact nodup_keys_entryLayer h

/-! ## All layers -/

/-- The table of all layers, each written over the ones before it. -/
def layered (tables : SettingsFile → OrderedTable Value) (environment : OrderedTable Value)
    (overrides : List (String × Value)) : OrderedTable Value :=
  ((((tables .home).update (tables .project)).update (tables .named)).update environment).update
    (overrideLayer overrides)

/-- The value that the highest of all layers gives a setting, if any layer gives it one. -/
def decided? (overrides : List (String × Value)) (env? : String → Option String)
    (tables : SettingsFile → OrderedTable Value) (f : Field) : Option Value :=
  (overriding? overrides f).or <| (Environment.value? env? f).or <|
    ((tables .named).get? f.key).or <| ((tables .project).get? f.key).or <|
      (tables .home).get? f.key

theorem get?_layered {tables : SettingsFile → OrderedTable Value}
    (distinct : ∀ w, (tables w).keys.Nodup) {env? : String → Option String}
    {environment : OrderedTable Value} (henv : Environment.layer env? = .ok environment)
    (overrides : List (String × Value)) (f : Field) :
    (layered tables environment overrides).get? f.key = decided? overrides env? tables f := by
  obtain ⟨hdistinct, hvalues⟩ := Environment.layer_spec henv
  unfold layered decided?
  rw [OrderedTable.get?_update _ (nodup_keys_overrideLayer overrides),
    OrderedTable.get?_update _ hdistinct, OrderedTable.get?_update _ (distinct .named),
    OrderedTable.get?_update _ (distinct .project), get?_overrideLayer, (hvalues f).1]

/-- Which names the table of all layers has is a matter of the names that the layers have. -/
theorem keys_layered_congr {tables tables' : SettingsFile → OrderedTable Value}
    (distinct : ∀ w, (tables w).keys.Nodup) (hkeys : ∀ w, (tables' w).keys = (tables w).keys)
    {environment : OrderedTable Value} (hdistinct : environment.keys.Nodup)
    (overrides : List (String × Value)) :
    (layered tables' environment overrides).keys = (layered tables environment overrides).keys := by
  have hfiles := OrderedTable.keys_update_congr (distinct .named)
    (OrderedTable.keys_update_congr (distinct .project) (hkeys .home) (hkeys .project))
    (hkeys .named)
  exact OrderedTable.keys_update_congr (nodup_keys_overrideLayer overrides)
    (OrderedTable.keys_update_congr hdistinct hfiles rfl) rfl

/-! ## Loading -/

theorem reads_pick {around : Surroundings} {file? : Option Path}
    {named project home : OrderedTable Value}
    (hnamed : SettingsFile.named.read around file? = .ok named)
    (hproject : SettingsFile.project.read around file? = .ok project)
    (hhome : SettingsFile.home.read around file? = .ok home) (w : SettingsFile) :
    w.read around file? = .ok (SettingsFile.pick named project home w) := by
  cases w with
  | named => exact hnamed
  | project => exact hproject
  | home => exact hhome

theorem load_eq (around : Surroundings) (file? : Option Path)
    (overrides : List (String × Value)) :
    load around file? overrides = (do
      refuseFileKey "js_complexity.config.load_config" overrides
      let home ← SettingsFile.home.read around file?
      let project ← SettingsFile.project.read around file?
      let named ← SettingsFile.named.read around file?
      let environment ← (Environment.layer around.env?).mapError .reported
      (ofTable (layered (SettingsFile.pick named project home) environment overrides)).mapError
        (loadTrouble around.runtime.shownLevels)) := by
  -- reading the files is one computation inside the other
  unfold load merged
  simp only [bind_assoc, pure_bind]
  rfl

/-- A value that a file gives a setting is shadowed if the caller, the environment or a higher file
gives the setting a value too. -/
def Shadowed (around : Surroundings) (file? : Option Path) (overrides : List (String × Value))
    (w : SettingsFile) (f : Field) : Prop :=
  (overriding? overrides f).isSome ∨ (around.env? (Environment.nameOf f)).isSome ∨
    ∃ w' ∈ w.above, ∃ t, w'.read around file? = .ok t ∧ (t.get? f.key).isSome

/-- A table `u` with the names of `t` that has other values under hidden settings only. -/
structure ReplacedAt (hidden : Field → Prop) (t u : OrderedTable Value) : Prop where
  keys : u.keys = t.keys
  get? : ∀ f, ¬ hidden f → u.get? f.key = t.get? f.key

theorem not_shadowed {around : Surroundings} {file? : Option Path}
    {overrides : List (String × Value)} {tables : SettingsFile → OrderedTable Value}
    (hread : ∀ w : SettingsFile, w.read around file? = .ok (tables w))
    {w : SettingsFile} {f : Field}
    (htop : overriding? overrides f = none) (henv : around.env? (Environment.nameOf f) = none)
    (habove : ∀ w' ∈ w.above, (tables w').get? f.key = none) :
    ¬ Shadowed around file? overrides w f := by
  rintro (h | h | ⟨w', hw', t, ht, h⟩)
  · rw [htop] at h
    cases h
  · rw [henv] at h
    cases h
  · rw [hread w'] at ht
    cases ht
    rw [habove w' hw'] at h
    cases h

/-- Where only shadowed values differ, the deciding values are the same. -/
theorem decided?_of_replacedAt {around : Surroundings} {file? : Option Path}
    {overrides : List (String × Value)} {tables tables' : SettingsFile → OrderedTable Value}
    (hread : ∀ w : SettingsFile, w.read around file? = .ok (tables w))
    (hreplaced : ∀ w, ReplacedAt (Shadowed around file? overrides w) (tables w) (tables' w))
    {environment : OrderedTable Value} (henv : Environment.layer around.env? = .ok environment)
    (f : Field) :
    decided? overrides around.env? tables' f = decided? overrides around.env? tables f := by
  unfold decided?
  refine or_congr_of_none fun htop => or_congr_of_none fun hvalue => ?_
  -- an environment that can be read gives no value only where the variable is not set
  have hunset : around.env? (Environment.nameOf f) = none := by
    rw [← Option.not_isSome_iff_eq_none]
    intro hset
    have hsome := ((Environment.layer_spec henv).2 f).2 hset
    rw [hvalue] at hsome
    cases hsome
  -- below a layer that gives nothing, the next one decides and is not shadowed
  have hsame : ∀ w : SettingsFile, (∀ w' ∈ w.above, (tables w').get? f.key = none) →
      (tables' w).get? f.key = (tables w).get? f.key :=
    fun w habove => (hreplaced w).get? f (not_shadowed hread htop hunset habove)
  rw [hsame .named (by simp [SettingsFile.above])]
  refine or_congr_of_none fun hnamed => ?_
  rw [hsame .project (by simp [SettingsFile.above, hnamed])]
  refine or_congr_of_none fun hproject => ?_
  exact hsame .home (by simp [SettingsFile.above, hnamed, hproject])

/-- Where only shadowed values differ, the checks come to the same, be it settings or a refusal. -/
theorem ofTable_layered_of_replacedAt {around other : Surroundings} {file? : Option Path}
    {overrides : List (String × Value)} {tables tables' : SettingsFile → OrderedTable Value}
    (hread : ∀ w : SettingsFile, w.read around file? = .ok (tables w))
    (hread' : ∀ w : SettingsFile, w.read other file? = .ok (tables' w))
    (hreplaced : ∀ w, ReplacedAt (Shadowed around file? overrides w) (tables w) (tables' w))
    {environment : OrderedTable Value} (henv : Environment.layer around.env? = .ok environment) :
    ofTable (layered tables' environment overrides) =
      ofTable (layered tables environment overrides) := by
  have distinct : ∀ w, (tables w).keys.Nodup := fun w => nodup_keys_read (hread w)
  have distinct' : ∀ w, (tables' w).keys.Nodup := fun w => nodup_keys_read (hread' w)
  refine ofTable_congr ?_ ?_
  · exact keys_layered_congr distinct (fun w => (hreplaced w).keys)
      (Environment.layer_spec henv).1 overrides
  · intro f
    unfold lookup
    rw [get?_layered distinct' henv, get?_layered distinct henv,
      decided?_of_replacedAt hread hreplaced henv]

theorem replacedAt_of_read {hidden : Field → Prop} {x y : Except Trouble (OrderedTable Value)}
    (h : y = x ∨ ∃ t u, x = .ok t ∧ y = .ok u ∧ ReplacedAt hidden t u)
    {t u : OrderedTable Value} (hx : x = .ok t) (hy : y = .ok u) : ReplacedAt hidden t u := by
  rcases h with h | ⟨t', u', ht, hu, h⟩
  · rw [h, hx, Except.ok.injEq] at hy
    rw [← hy]
    exact ⟨rfl, fun _ _ => rfl⟩
  · rw [ht, Except.ok.injEq] at hx
    rw [hu, Except.ok.injEq] at hy
    rw [← hx, ← hy]
    exact h

/-- Files whose tables differ in shadowed values only lead to the same outcome. -/
theorem load_of_replacedAt {around other : Surroundings} {file? : Option Path}
    {overrides : List (String × Value)} (henv : other.env? = around.env?)
    (hruntime : other.runtime = around.runtime)
    (hfiles : ∀ w : SettingsFile, w.read other file? = w.read around file? ∨
      ∃ t u, w.read around file? = .ok t ∧ w.read other file? = .ok u ∧
        ReplacedAt (Shadowed around file? overrides w) t u) :
    load other file? overrides = load around file? overrides := by
  have hread : ∀ w : SettingsFile, w.read other file? = w.read around file? ∨
      ∃ u t, w.read other file? = .ok u ∧ w.read around file? = .ok t := by
    intro w
    rcases hfiles w with h | ⟨t, u, ht, hu, _⟩
    · exact .inl h
    · exact .inr ⟨u, t, hu, ht⟩
  -- the steps agree one by one; only after the last of them do the values matter
  rw [load_eq, load_eq, henv, hruntime]
  refine bind_eq_bind_of_ok (.inl rfl) fun _ _ _ _ => ?_
  refine bind_eq_bind_of_ok (hread .home) fun home' home hhome' hhome => ?_
  refine bind_eq_bind_of_ok (hread .project) fun project' project hproject' hproject => ?_
  refine bind_eq_bind_of_ok (hread .named) fun named' named hnamed' hnamed => ?_
  refine bind_eq_bind_of_ok (.inl rfl) fun environment _ henvironment hsame => ?_
  rw [henvironment] at hsame
  cases hsame
  have htables := reads_pick hnamed hproject hhome
  have htables' := reads_pick hnamed' hproject' hhome'
  rw [ofTable_layered_of_replacedAt htables htables'
    (fun w => replacedAt_of_read (hfiles w) (htables w) (htables' w))
    (eq_ok_of_mapError henvironment)]

/-- Settings that are loaded have the deciding values, and their defaults where no layer decides. -/
theorem exists_tables_of_load {around : Surroundings} {file? : Option Path}
    {overrides : List (String × Value)} {s : Settings}
    (h : load around file? overrides = .ok s) :
    ∃ tables : SettingsFile → OrderedTable Value,
      (∀ w : SettingsFile, w.read around file? = .ok (tables w)) ∧
      ∀ f, s.get f = (decided? overrides around.env? tables f).getD (Settings.get {} f) := by
  rw [load_eq] at h
  obtain ⟨_, _, h⟩ := exists_of_bind_eq_ok h
  obtain ⟨home, hhome, h⟩ := exists_of_bind_eq_ok h
  obtain ⟨project, hproject, h⟩ := exists_of_bind_eq_ok h
  obtain ⟨named, hnamed, h⟩ := exists_of_bind_eq_ok h
  obtain ⟨environment, henvironment, h⟩ := exists_of_bind_eq_ok h
  have htables := reads_pick hnamed hproject hhome
  refine ⟨_, htables, ?_⟩
  intro f
  rw [get_of_ofTable (eq_ok_of_mapError h) f, lookup,
    get?_layered (fun w => nodup_keys_read (htables w)) (eq_ok_of_mapError henvironment)]

/-- Settings have the values of the highest layers that give them one, and what a file gives below
such a layer has no influence, whatever it is. -/
theorem load_by_rank (around : Surroundings) (file? : Option Path)
    (overrides : List (String × Value)) :
    (∀ s, load around file? overrides = .ok s →
      ∃ tables : SettingsFile → OrderedTable Value,
        (∀ w : SettingsFile, w.read around file? = .ok (tables w)) ∧
        ∀ f, s.get f = (decided? overrides around.env? tables f).getD (Settings.get {} f)) ∧
    ∀ other : Surroundings, other.env? = around.env? → other.runtime = around.runtime →
      (∀ w : SettingsFile, w.read other file? = w.read around file? ∨
        ∃ t u, w.read around file? = .ok t ∧ w.read other file? = .ok u ∧
          ReplacedAt (Shadowed around file? overrides w) t u) →
      load other file? overrides = load around file? overrides :=
  ⟨fun _ h => exists_tables_of_load h,
    fun _ henv hruntime hfiles => load_of_replacedAt henv hruntime hfiles⟩

/-- An environment that names an import. -/
def importFetch (name : String) : Option String :=
  if name = "JSCX_IMPORT_CALLEE" then some "fetch" else none

/-- A runtime that refuses every text that is not TOML in the same words. -/
def usualRuntime : Runtime where
  tomlLevels := 980
  shownLevels := 980
  tomlReason _ := "Invalid value (at line 1, column 12)"

/-- A machine with settings files at home and at work, and one more that a caller can name. -/
def threeFiles (homeText : String) : Surroundings where
  files.look p :=
    if p.text = "/h/.js-complexity.toml" then .found (.file homeText.toUTF8)
    else if p.text = "/w/js-complexity.toml" then .found (.file "import_callee = 7".toUTF8)
    else if p.text = "/w/own.toml" then .found (.file "output_format = 'json'".toUTF8)
    else .missing
  home := .ofString "/h"
  cwd := .ofString "/w"
  env? := importFetch
  runtime := usualRuntime

theorem importFetch_nameOf (f : Field) :
    importFetch (Environment.nameOf f) = if f = .importCallee then some "fetch" else none := by
  rw [Environment.nameOf_eq]
  cases f <;> rfl

theorem read_threeFiles_project (homeText : String) :
    SettingsFile.project.read (threeFiles homeText) (some (.ofString "/w/own.toml")) =
      .ok ⟨[("import_callee", .int 7)]⟩ := by
  cbv

theorem read_threeFiles_named (homeText : String) :
    SettingsFile.named.read (threeFiles homeText) (some (.ofString "/w/own.toml")) =
      .ok ⟨[("output_format", .text "json")]⟩ := by
  cbv

theorem load_by_rank_threeFiles :
    let around := threeFiles "import_callee = 'load'\nfail_above = 5"
    let other := threeFiles "import_callee = 'no name'\nfail_above = 5"
    let file? := some (Path.ofString "/w/own.toml")
    let overrides := [("quiet", Value.bool true), ("tolerant", .null)]
    let settings : Settings :=
      { importCallee := "fetch", outputFormat := .json, failAbove := some (.int 5),
        verbosity := .quiet }
    load around file? overrides = .ok settings ∧
    (∃ tables : SettingsFile → OrderedTable Value,
      (∀ w : SettingsFile, w.read around file? = .ok (tables w)) ∧
      ∀ f, settings.get f =
        (decided? overrides around.env? tables f).getD (Settings.get {} f)) ∧
    load other file? overrides = .ok settings := by
  intro around other file? overrides settings
  have hhome : SettingsFile.home.read around file? =
      .ok ⟨[("import_callee", .text "load"), ("fail_above", .int 5)]⟩ := by cbv
  have hhome' : SettingsFile.home.read other file? =
      .ok ⟨[("import_callee", .text "no name"), ("fail_above", .int 5)]⟩ := by cbv
  have hload : load around file? overrides = .ok settings := by
    have henv : Environment.layer around.env? = .ok ⟨[("import_callee", .text "fetch")]⟩ := by
      show Environment.layer importFetch = _
      simp only [Environment.layer, Environment.layerOf, Field.all, importFetch_nameOf]
      rfl
    rw [load_eq, hhome, read_threeFiles_project, read_threeFiles_named, henv]
    rfl
  obtain ⟨hvalues, hshadows⟩ := load_by_rank around file? overrides
  refine ⟨hload, hvalues settings hload, ?_⟩
  rw [hshadows other rfl rfl, hload]
  intro w
  cases w with
  | named => exact .inl ((read_threeFiles_named _).trans (read_threeFiles_named _).symm)
  | project => exact .inl ((read_threeFiles_project _).trans (read_threeFiles_project _).symm)
  | home =>
    refine .inr ⟨_, _, hhome, hhome', rfl, ?_⟩
    intro f hf
    -- the environment shadows the one value that differs
    have hset : (importFetch (Environment.nameOf .importCallee)).isSome := by
      rw [importFetch_nameOf]
      rfl
    cases f with
    | importCallee => exact absurd (.inr (.inl hset)) hf
    | _ => rfl

end Settings
end CodeMetrics
