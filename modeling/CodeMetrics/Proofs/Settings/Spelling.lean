import CodeMetrics.Proofs.Number.Numeral
import CodeMetrics.Proofs.Settings.Causes
import Mathlib

/-!
# Settings written into the environment

Settings can be written down, each as the text of its variable, and loaded
again.  The texts need not be the ones that the settings are shown as: truth
values can be written in any mix of cases, and whole numbers with underscores
between their digits and blanks around.

* `Settings.written?` — what the variable of a setting is set to;
* `Environment.Variant` — other ways of writing the text of a variable;
* **one variable** — what is written for a setting is read as its value, in all
  these ways (`Environment.read_of_variant`);
* **loading** — where nothing but the environment gives values, they are what
  is loaded (`Settings.load_of_environment`), so settings that are written come
  back as they were (`Settings.load_written`).
-/

namespace CodeMetrics

namespace Settings

/-- The text that the variable of a setting is set to: the setting as it is shown.  What has no
value is not written, nor is the size limit. -/
def written? (s : Settings) (f : Field) : Option String :=
  if f = .maxFileSizeMb ∨ (s.get f).isNull then none else some (s.get f).plain

/-- Settings with a truth value for tolerance, the usual size limit and, if there is a gate, a whole
number for it that can be converted. -/
structure Writable (s : Settings) : Prop where
  tolerant : ∃ b, s.tolerant = .bool b
  maxFileSizeMb : s.maxFileSizeMb = ({} : Settings).maxFileSizeMb
  failAbove : ∀ q ∈ s.failAbove, ∃ n : Int, q = .int n ∧ n < 10 ^ Numeral.maxDigits

theorem written?_eq_some_iff {s : Settings} {f : Field} {shown : String} :
    s.written? f = some shown ↔
      (f ≠ .maxFileSizeMb ∧ (s.get f).isNull = false) ∧ (s.get f).plain = shown := by
  rw [written?, Option.ite_none_left_eq_some, not_or, Bool.not_eq_true, Option.some.injEq]

/-- What is not written has its default. -/
theorem get_of_not_written {s : Settings} (hw : s.Writable) {f : Field}
    (h : s.written? f = none) : s.get f = Settings.get {} f := by
  cases f with
  | tolerant =>
    obtain ⟨b, hb⟩ := hw.tolerant
    have hget : s.get .tolerant = .bool b := hb
    simp [written?, hget, Value.isNull] at h
  | maxFileSizeMb => exact congrArg Quantity.toValue hw.maxFileSizeMb
  | failAbove =>
    cases hgate : s.failAbove with
    | none => rw [Settings.get, hgate]; rfl
    | some q =>
      have hget : s.get .failAbove = q.toValue := by rw [Settings.get, hgate]; rfl
      cases q <;> simp [written?, hget, Quantity.toValue, Value.isNull] at h
  | importCallee => cases h
  | outputFormat => cases h
  | verbosity => cases h

/-- The gate is written with its digits. -/
theorem toDigits_of_written {t : OrderedTable Value} {s : Settings} (hs : ofTable t = .ok s)
    (hw : s.Writable) {shown : String} (h : s.written? .failAbove = some shown) :
    ∃ n : Nat, s.get .failAbove = .int n ∧ n < 10 ^ Numeral.maxDigits ∧
      shown.toList = Nat.toDigits 10 n := by
  obtain ⟨⟨-, hvalue⟩, rfl⟩ := written?_eq_some_iff.mp h
  cases hgate : s.failAbove with
  | none =>
    have hget : s.get .failAbove = .null := by rw [Settings.get, hgate]; rfl
    rw [hget] at hvalue
    cases hvalue
  | some q =>
    have hget : s.get .failAbove = q.toValue := by rw [Settings.get, hgate]; rfl
    obtain ⟨n, rfl, hn⟩ := hw.failAbove q hgate
    have hlow : ¬ n < 1 := of_decide_eq_false (gate_of_ofTable hs hgate)
    obtain ⟨n, rfl⟩ := Int.eq_ofNat_of_zero_le (show 0 ≤ n by omega)
    refine ⟨n, hget, by exact_mod_cast hn, ?_⟩
    rw [hget]
    exact Nat.toList_repr

end Settings

/-! ## One variable -/

namespace Environment

/-- A text can stand in the variable of a setting in place of another one.  Only truth values and
whole numbers can be written in several ways; the blanks around a number are the white space of
Unicode. -/
def Variant (f : Field) (shown text : String) : Prop :=
  match f with
  | .tolerant => text.map Char.toLower = shown.map Char.toLower
  | .failAbove => Numeral.Spells shown.toList text
  | _ => text = shown

/-- The letters of a truth value can have any case. -/
theorem readBool_of_map_toLower {b : Bool} {text : String}
    (h : text.map Char.toLower = (Value.bool b).plain.map Char.toLower) :
    readBool text = .ok b := by
  have hword : text.map Char.toLower = if b then "true" else "false" := by
    rw [h]
    cases b <;> cbv
  rw [readBool, hword]
  cases b <;> rfl

section

variable {t : OrderedTable Value} {s : Settings} (hs : Settings.ofTable t = .ok s)
  (hw : s.Writable) {f : Field} {shown : String} (hshown : s.written? f = some shown)

include hs hw hshown

/-- What is written is a variant of itself. -/
theorem variant_self : Variant f shown shown := by
  cases f with
  | failAbove =>
    obtain ⟨n, -, -, hdigits⟩ := Settings.toDigits_of_written hs hw hshown
    exact Numeral.spells_self (hdigits ▸ Nat.toDigits_ne_nil)
  | _ => rfl

/-- What is written for a setting, in whatever way, is read as its value. -/
theorem read_of_variant {text : String} (htext : Variant f shown text) :
    read f text = .ok (s.get f) := by
  obtain ⟨⟨hlimit, -⟩, hplain⟩ := Settings.written?_eq_some_iff.mp hshown
  cases f with
  | tolerant =>
    obtain ⟨b, hb⟩ := hw.tolerant
    have hget : s.get .tolerant = .bool b := hb
    have htext : text.map Char.toLower = shown.map Char.toLower := htext
    rw [← hplain, hget] at htext
    rw [read, readBool_of_map_toLower htext, hget]
    rfl
  | maxFileSizeMb => exact absurd rfl hlimit
  | failAbove =>
    obtain ⟨n, hget, hn, hdigits⟩ := Settings.toDigits_of_written hs hw hshown
    have htext : Numeral.Spells shown.toList text := htext
    rw [hdigits] at htext
    rw [read, Numeral.readInt_of_spells hn htext, hget]
  | importCallee | outputFormat | verbosity =>
    have htext : text = shown := htext
    rw [htext, ← hplain]
    rfl

end

/-- Where variables are set to what is written for a setting, in whatever way, or not set, nothing
is complained of, and the setting has its value. -/
theorem value?_of_variant {t : OrderedTable Value} {s : Settings}
    (hs : Settings.ofTable t = .ok s) (hw : s.Writable) {env? : String → Option String} {f : Field}
    (h : Option.Rel (Variant f) (s.written? f) (env? (nameOf f))) :
    complaint? env? f = none ∧ (value? env? f).getD (Settings.get {} f) = s.get f := by
  unfold complaint? value?
  generalize hshown : s.written? f = shown? at h
  generalize env? (nameOf f) = text? at h
  cases h with
  | none => exact ⟨rfl, (Settings.get_of_not_written hw hshown).symm⟩
  | some htext =>
    rw [Option.bind_some, Option.bind_some, read_of_variant hs hw hshown htext]
    exact ⟨rfl, rfl⟩

end Environment

/-! ## Loading -/

namespace Settings

theorem refusal?_get_of_ofTable {t : OrderedTable Value} {s : Settings} (h : ofTable t = .ok s)
    (f : Field) : refusal? f (s.get f) = none := by
  have hnone : error? (ofTable t) = none := by rw [h]; rfl
  rw [error?_ofTable, Option.or_eq_none_iff, List.findSome?_eq_none_iff] at hnone
  rw [get_of_ofTable h]
  exact hnone.2 f (Environment.mem_all f)

/-- Without files and overrides a setting comes to what the environment gives, or else to its
default. -/
theorem settled_of_nothing (around : Surroundings) (f : Field) : settled around [] (fun _ => {}) f =
    (Environment.value? around.env? f).getD (Settings.get {} f) := by
  have htop : overriding? [] f = none := by cases f <;> rfl
  have hempty : ({} : OrderedTable Value).get? f.key = none := rfl
  rw [settled, decided?, htop, hempty]
  simp

section

variable {around : Surroundings} {s : Settings}
  (hhome : around.files.look (homeFile around) = .missing)
  (hproject : around.files.look (projectFile around) = .missing)

include hhome hproject

/-- Where nothing but the environment gives values, and all of them pass the checks, they are what
is loaded. -/
theorem load_of_environment (hread : ∀ f, Environment.complaint? around.env? f = none)
    (hget : ∀ f, (Environment.value? around.env? f).getD (Settings.get {} f) = s.get f)
    (hpass : ∀ f, refusal? f (s.get f) = none) : load around none [] = .ok s := by
  have hholds := SettingsFile.holds_of_missing hhome hproject
  have htables := SettingsFile.tables?_eq_some_iff.mpr hholds
  have hsettled (f : Field) : settled around [] (fun _ => {}) f = s.get f := by
    rw [settled_of_nothing, hget]
  have hnone (stage : LoadStage) : complaint? around none [] stage = none := by
    cases stage with
    | call => rfl
    | presence => rfl
    | file w => exact complaint?_file_of_holds (hholds w)
    | environment f => rw [complaint?, hread]; rfl
    | names => rw [complaint?, htables]; rfl
    | value f => rw [complaint?, htables, Option.bind_some, hsettled, hpass]; rfl
  obtain ⟨s', hs'⟩ : ∃ s', load around none [] = .ok s' := by
    rw [← error?_eq_none_iff, error?_load]
    exact List.findSome?_eq_none_iff.mpr fun stage _ => hnone stage
  obtain ⟨tables, hholds', hget'⟩ := get_of_load around none [] hs'
  have hsame : s' = s := get_injective <| funext fun f => by
    rw [hget', SettingsFile.tables_unique hholds' hholds, hsettled]
  rw [hs', hsame]

end

/-- Settings that pass the checks come back from the environment that they are written into, where
there are no settings files and no overrides.  So they do if the truth value is written in any mix
of cases, and the number with single underscores between its digits and with blanks around. -/
theorem load_written {t : OrderedTable Value} {s : Settings} (hs : ofTable t = .ok s)
    (hw : s.Writable) {around : Surroundings}
    (hhome : around.files.look (homeFile around) = .missing)
    (hproject : around.files.look (projectFile around) = .missing) :
    (∀ env? : String → Option String, (∀ f, env? (Environment.nameOf f) = s.written? f) →
      load { around with env? } none [] = .ok s) ∧
    ∀ env? : String → Option String,
      (∀ f, Option.Rel (Environment.Variant f) (s.written? f) (env? (Environment.nameOf f))) →
      load { around with env? } none [] = .ok s := by
  have hvariants : ∀ env? : String → Option String,
      (∀ f, Option.Rel (Environment.Variant f) (s.written? f) (env? (Environment.nameOf f))) →
      load { around with env? } none [] = .ok s := by
    intro env? henv
    exact load_of_environment hhome hproject
      (fun f => (Environment.value?_of_variant hs hw (henv f)).1)
      (fun f => (Environment.value?_of_variant hs hw (henv f)).2) (refusal?_get_of_ofTable hs)
  refine ⟨?_, hvariants⟩
  intro env? henv
  refine hvariants env? fun f => ?_
  rw [henv f]
  cases hshown : s.written? f with
  | none => exact .none
  | some shown => exact .some (Environment.variant_self hs hw hshown)

/-- The variables of all settings but the size limit. -/
def fiveVariables (tolerant gate name : String) : Option String :=
  [("JSCX_TOLERANT", tolerant), ("JSCX_IMPORT_CALLEE", "load"), ("JSCX_OUTPUT_FORMAT", "json"),
    ("JSCX_FAIL_ABOVE", gate), ("JSCX_VERBOSITY", "quiet")].lookup name

theorem fiveVariables_nameOf (tolerant gate : String) (f : Field) :
    fiveVariables tolerant gate (Environment.nameOf f) =
      match f with
      | .tolerant => some tolerant
      | .importCallee => some "load"
      | .maxFileSizeMb => none
      | .outputFormat => some "json"
      | .failAbove => some gate
      | .verbosity => some "quiet" := by
  rw [Environment.nameOf_eq]
  cases f <;> simp [fiveVariables, List.lookup]

/-- Settings written as they are shown, and again with other cases, an underscore and blanks. -/
theorem load_written_fiveVariables :
    let s : Settings :=
      { tolerant := .bool true, importCallee := "load", outputFormat := .json,
        failAbove := some (.int 10), verbosity := .quiet }
    let machine : Surroundings :=
      { files.look _ := .missing, home := .ofString "/h", cwd := .ofString "/w", env? _ := none,
        runtime := usualRuntime }
    load { machine with env? := fiveVariables "True" "10" } none [] = .ok s ∧
    load { machine with env? := fiveVariables "tRUE" "\t1_0 " } none [] = .ok s := by
  intro s machine
  have hs : ofTable ⟨[("tolerant", .bool true), ("import_callee", .text "load"),
      ("output_format", .text "json"), ("fail_above", .int 10), ("verbosity", .text "quiet")]⟩ =
      .ok s := rfl
  have hw : s.Writable := by
    refine ⟨⟨true, rfl⟩, rfl, ?_⟩
    rintro q hq
    cases hq
    exact ⟨10, rfl, lt_self_pow₀ (by norm_num) (by decide)⟩
  have hhome : machine.files.look (homeFile machine) = .missing := rfl
  have hproject : machine.files.look (projectFile machine) = .missing := rfl
  have hcases : Environment.Variant .tolerant "True" "tRUE" := by
    have hshown : "True".map Char.toLower = "true" := by cbv
    have htext : "tRUE".map Char.toLower = "true" := by cbv
    exact htext.trans hshown.symm
  have hdigits : Environment.Variant .failAbove "10" "\t1_0 " :=
    ⟨['\t'], ['1', '_', '0'], [' '], List.forall_mem_singleton.mpr rfl,
      List.forall_mem_singleton.mpr rfl, .gap _ (.last _), rfl⟩
  obtain ⟨hshown, hvaried⟩ := load_written hs hw hhome hproject
  refine ⟨hshown _ fun f => ?_, hvaried _ fun f => ?_⟩
  · rw [fiveVariables_nameOf]
    cases f <;> rfl
  · rw [fiveVariables_nameOf]
    cases f with
    | tolerant => exact .some hcases
    | maxFileSizeMb => exact .none
    | failAbove => exact .some hdigits
    | _ => exact .some rfl

end Settings

end CodeMetrics
