import CodeMetrics.Proofs.Failure
import CodeMetrics.Settings.Load

/-!
# What checks let through

A check of a setting refuses a value or lets it through, and what it lets
through is the value it was given, now typed.  So settings that pass all checks
have the values of their table, or the defaults where it has none
(`Settings.get_of_ofTable`), no gate below one (`Settings.gate_of_ofTable`) and
no size limit that is at most zero (`Settings.limit_of_ofTable`).
The checks look at the names of a table and at the values of the six settings,
and at nothing else (`Settings.ofTable_congr`).
-/

namespace CodeMetrics.Settings

/-! ## One check -/

theorem text_of_checkCallee {v : Value} {s : String} (h : checkCallee v = .ok s) :
    Value.text s = v := by
  unfold checkCallee at h
  dsimp only at h
  split at h
  · split at h
    · cases h
      rfl
    · cases h
  · split at h
    · cases h
    · cases h

theorem toValue_of_ofValue? {v : Value} {q : Quantity} (h : Quantity.ofValue? v = some q) :
    q.toValue = v := by
  unfold Quantity.ofValue? at h
  split at h <;> cases h <;> rfl

theorem toValue_of_checkLimit {v : Value} {q : Quantity} (h : checkLimit v = .ok q) :
    q.toValue = v := by
  unfold checkLimit at h
  split at h
  · cases h
  · rename_i hq
    split at h
    · cases h
    · cases h
      exact toValue_of_ofValue? hq

/-- A size limit that is let through is not at most zero. -/
theorem leInt_of_checkLimit {v : Value} {q : Quantity} (h : checkLimit v = .ok q) :
    q.leInt 0 = false := by
  unfold checkLimit at h
  split at h
  · cases h
  · split at h
    · cases h
    · rename_i hlow
      cases h
      exact eq_false_of_ne_true hlow

/-- A choice that is found by its name is written with that name. -/
theorem text_of_named {α : Type} {all : List α} {name : α → String} {v : Value} {a : α}
    (h : (match v with
      | .text s => all.find? (fun a => name a == s)
      | _ => none) = some a) : Value.text (name a) = v := by
  split at h
  · exact congrArg Value.text (by simpa using List.find?_some h)
  · cases h

theorem text_of_checkFormat {v : Value} {f : OutputFormat} (h : checkFormat v = .ok f) :
    Value.text f.name = v := by
  unfold checkFormat at h
  dsimp only at h
  split at h
  · rename_i hf
    cases h
    exact text_of_named hf
  · cases h

theorem value_of_checkGate {v : Value} {gate : Option Quantity} (h : checkGate v = .ok gate) :
    (gate.map Quantity.toValue).getD .null = v := by
  unfold checkGate at h
  split at h
  · cases h
    rfl
  · split at h
    · cases h
    · rename_i hq
      split at h
      · cases h
      · cases h
        exact toValue_of_ofValue? hq

/-- A gate that is let through does not lie below one. -/
theorem ltInt_of_checkGate {v : Value} {q : Quantity} (h : checkGate v = .ok (some q)) :
    q.ltInt 1 = false := by
  unfold checkGate at h
  split at h
  · cases h
  · split at h
    · cases h
    · split at h
      · cases h
      · rename_i hlow
        cases h
        exact eq_false_of_ne_true hlow

theorem text_of_checkVerbosity {v : Value} {f : Verbosity} (h : checkVerbosity v = .ok f) :
    Value.text f.name = v := by
  unfold checkVerbosity at h
  dsimp only at h
  split at h
  · rename_i hf
    cases h
    exact text_of_named hf
  · cases h

/-! ## All checks -/

/-- Settings are those of a table: every check lets its value through. -/
structure Passed (t : OrderedTable Value) (s : Settings) : Prop where
  known : unknownKey? t = none
  tolerant : lookup t .tolerant = s.tolerant
  importCallee : checkCallee (lookup t .importCallee) = .ok s.importCallee
  maxFileSizeMb : checkLimit (lookup t .maxFileSizeMb) = .ok s.maxFileSizeMb
  outputFormat : checkFormat (lookup t .outputFormat) = .ok s.outputFormat
  failAbove : checkGate (lookup t .failAbove) = .ok s.failAbove
  verbosity : checkVerbosity (lookup t .verbosity) = .ok s.verbosity

theorem passed_of_ofTable {t : OrderedTable Value} {s : Settings} (h : ofTable t = .ok s) :
    Passed t s := by
  unfold ofTable at h
  split at h
  · cases h
  · rename_i hknown
    obtain ⟨callee, hcallee, h⟩ := exists_of_bind_eq_ok h
    obtain ⟨limit, hlimit, h⟩ := exists_of_bind_eq_ok h
    obtain ⟨format, hformat, h⟩ := exists_of_bind_eq_ok h
    obtain ⟨gate, hgate, h⟩ := exists_of_bind_eq_ok h
    obtain ⟨verbosity, hverbosity, h⟩ := exists_of_bind_eq_ok h
    cases h
    exact ⟨hknown, rfl, hcallee, hlimit, hformat, hgate, hverbosity⟩

/-- Settings that pass the checks have the values that were checked. -/
theorem get_of_ofTable {t : OrderedTable Value} {s : Settings} (h : ofTable t = .ok s)
    (f : Field) : s.get f = lookup t f := by
  have hpassed := passed_of_ofTable h
  cases f with
  | tolerant => exact hpassed.tolerant.symm
  | importCallee => exact text_of_checkCallee hpassed.importCallee
  | maxFileSizeMb => exact toValue_of_checkLimit hpassed.maxFileSizeMb
  | outputFormat => exact text_of_checkFormat hpassed.outputFormat
  | failAbove => exact value_of_checkGate hpassed.failAbove
  | verbosity => exact text_of_checkVerbosity hpassed.verbosity

/-- Settings that pass the checks have no gate below one. -/
theorem gate_of_ofTable {t : OrderedTable Value} {s : Settings} (h : ofTable t = .ok s)
    {q : Quantity} (hgate : s.failAbove = some q) : q.ltInt 1 = false :=
  ltInt_of_checkGate (hgate ▸ (passed_of_ofTable h).failAbove)

/-- Settings that pass the checks have a size limit that is not at most zero. -/
theorem limit_of_ofTable {t : OrderedTable Value} {s : Settings} (h : ofTable t = .ok s) :
    s.maxFileSizeMb.leInt 0 = false :=
  leInt_of_checkLimit (passed_of_ofTable h).maxFileSizeMb

/-- Settings that are loaded have passed the checks. -/
theorem exists_ofTable_of_load {around : Surroundings} {file? : Option Path}
    {overrides : List (String × Value)} {s : Settings} (h : load around file? overrides = .ok s) :
    ∃ t, ofTable t = .ok s := by
  unfold load at h
  obtain ⟨_, _, h⟩ := exists_of_bind_eq_ok h
  obtain ⟨t, _, h⟩ := exists_of_bind_eq_ok h
  exact ⟨t, eq_ok_of_mapError h⟩

/-- The checks look at the names of a table, and at the values of the settings. -/
theorem ofTable_congr {t u : OrderedTable Value} (hkeys : t.keys = u.keys)
    (hvalues : ∀ f, lookup t f = lookup u f) : ofTable t = ofTable u := by
  unfold ofTable unknownKey?
  rw [hkeys]
  simp only [hvalues]

end CodeMetrics.Settings
