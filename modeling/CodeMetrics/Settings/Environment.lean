import CodeMetrics.Settings.Basic

/-!
# Settings from the environment

Every setting can be given by an environment variable.  The text of the
variable is read as the setting's usual sort of value.

* `Environment.nameOf` — the variable of a setting;
* `Environment.read` — the value that the text of a variable stands for;
* `Environment.layer` — the values that an environment gives.
-/

namespace CodeMetrics

/-- Why the text of a variable stands for no value. -/
inductive EnvironmentFault where
  | notBoolean (text : String)
  | notNumber (fault : NumeralFault)
deriving Repr, DecidableEq, Inhabited

/-- The wording of a refusal. -/
def EnvironmentFault.message : EnvironmentFault → String
  | notBoolean text => s!"expected true/false, got '{text}'"
  | notNumber fault => fault.message

namespace Environment

/-- What the names of all variables start with. -/
def nameStart : String := "JSCX_"

/-- The variable of a setting. -/
def nameOf (f : Field) : String := nameStart ++ f.key.map Char.toUpper

theorem nameOf_eq (f : Field) :
    nameOf f =
      match f with
      | .tolerant => "JSCX_TOLERANT"
      | .importCallee => "JSCX_IMPORT_CALLEE"
      | .maxFileSizeMb => "JSCX_MAX_FILE_SIZE_MB"
      | .outputFormat => "JSCX_OUTPUT_FORMAT"
      | .failAbove => "JSCX_FAIL_ABOVE"
      | .verbosity => "JSCX_VERBOSITY" := by
  cases f <;> decide +kernel

/-- Reads a truth value in any mix of cases.  No letter beyond ASCII has a lower case that occurs in
the words, so lower-casing ASCII letters is enough. -/
def readBool (s : String) : Except EnvironmentFault Bool :=
  let word := s.map Char.toLower
  if ["true", "1", "yes", "on"].contains word then .ok true
  else if ["false", "0", "no", "off"].contains word then .ok false
  else .error (.notBoolean s)

/-- Reads the text of a setting's variable. -/
def read (f : Field) (s : String) : Except EnvironmentFault Value :=
  match f with
  | .tolerant => (readBool s).map .bool
  | .maxFileSizeMb =>
      match Numeral.readFloat s with
      | .ok x => .ok (.float x)
      | .error e => .error (.notNumber e)
  | .failAbove =>
      match Numeral.readInt s with
      | .ok n => .ok (.int n)
      | .error e => .error (.notNumber e)
  | .importCallee | .outputFormat | .verbosity => .ok (.text s)

/-- Reads the variables of some settings in order, up to the first that cannot be read. -/
def layerOf (env? : String → Option String) :
    List Field → Except Failure (List (String × Value))
  | [] => .ok []
  | f :: rest =>
      match env? (nameOf f) with
      | none => layerOf env? rest
      | some text =>
          match read f text with
          | .error e => .error (.invalidSetting (nameOf f) (.text text) e.message)
          | .ok v => (layerOf env? rest).map ((f.key, v) :: ·)

/-- The values that an environment gives, in the order of the settings. -/
def layer (env? : String → Option String) : Except Failure (OrderedTable Value) :=
  (layerOf env? Field.all).map (⟨·⟩)

end Environment

end CodeMetrics
