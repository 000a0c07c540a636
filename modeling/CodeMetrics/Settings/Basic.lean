import CodeMetrics.Failure
import CodeMetrics.OrderedTable
import CodeMetrics.Text.Identifier

/-!
# Settings

Six settings govern a run.  They are given as values of any sort and checked
one after the other; what passes the checks is typed.

* `Field` — the six settings, with `Field.key` for their written names;
* `Settings` — settings that have passed the checks;
* `Settings.ofTable` — the checks, in order;
* `Settings.maxFileBytes` — the size limit in bytes.
-/

namespace CodeMetrics

/-- A setting. -/
inductive Field where
  | tolerant
  | importCallee
  | maxFileSizeMb
  | outputFormat
  | failAbove
  | verbosity
deriving Repr, DecidableEq, Inhabited

namespace Field

/-- The settings in order. -/
def all : List Field :=
  [tolerant, importCallee, maxFileSizeMb, outputFormat, failAbove, verbosity]

/-- The written name of a setting. -/
def key : Field → String
  | tolerant => "tolerant"
  | importCallee => "import_callee"
  | maxFileSizeMb => "max_file_size_mb"
  | outputFormat => "output_format"
  | failAbove => "fail_above"
  | verbosity => "verbosity"

/-- The setting with a given written name. -/
def ofKey? (s : String) : Option Field := all.find? (fun f => f.key == s)

theorem ofKey?_key (f : Field) : ofKey? f.key = some f := by
  cases f <;> decide

end Field

/-- How a report is laid out. -/
inductive OutputFormat where
  | text
  | json
  | rich
deriving Repr, DecidableEq, Inhabited

namespace OutputFormat

/-- Every format once. -/
def all : List OutputFormat := [text, json, rich]

/-- The written name of a format. -/
def name : OutputFormat → String
  | text => "text"
  | json => "json"
  | rich => "rich"

/-- The format with a given written name. -/
def ofName? (s : String) : Option OutputFormat := all.find? (fun f => f.name == s)

/-- The format with a given written name, or the complaint that there is none. -/
def ofName (s : String) : Except String OutputFormat :=
  match ofName? s with
  | some f => .ok f
  | none => .error s!"Unknown formatter: {Text.quote s}. Choose from: json, rich, text"

end OutputFormat

/-- How much a run says about itself. -/
inductive Verbosity where
  | quiet
  | normal
  | verbose
deriving Repr, DecidableEq, Inhabited

namespace Verbosity

/-- Every verbosity once. -/
def all : List Verbosity := [quiet, normal, verbose]

/-- The written name of a verbosity. -/
def name : Verbosity → String
  | quiet => "quiet"
  | normal => "normal"
  | verbose => "verbose"

/-- The verbosity with a given written name. -/
def ofName? (s : String) : Option Verbosity := all.find? (fun v => v.name == s)

end Verbosity

/-- Settings that have passed the checks. -/
structure Settings where
  /-- Whether damaged files are analysed; any value will do. -/
  tolerant : Value := .bool false
  /-- The name whose calls import a module. -/
  importCallee : String := "require"
  /-- Larger files are refused. -/
  maxFileSizeMb : Quantity := .float (Binary64.ofInt 10)
  /-- How the report is laid out. -/
  outputFormat : OutputFormat := .text
  /-- The complexity above which a run fails, if it should. -/
  failAbove : Option Quantity := none
  /-- How much is logged. -/
  verbosity : Verbosity := .normal
deriving Inhabited

/-- Why settings are refused. -/
inductive SettingsFault where
  /-- There is no such setting. -/
  | unknown (key : String)
  /-- The name that settings have for themselves. -/
  | ownName (key : String)
  /-- A setting has a value that it cannot have. -/
  | invalid (field : Field) (value : Value) (reason : String)
  /-- A value of this sort cannot be asked whether it is an identifier. -/
  | noIdentifierTest (sort : String)
  /-- A value of this sort cannot be compared with a number. -/
  | notComparable (operator sort : String)
deriving Repr, Inhabited

/-- The name of the call that checks settings. -/
def SettingsFault.call : String := "AnalysisConfig.__init__"

/-- The trouble that refused settings are.  A value is reported as far as it can be shown, with
`levels` for the values inside it. -/
def SettingsFault.trouble (levels : Nat) : SettingsFault → Trouble
  | unknown key => .uncaught (.unknownKeyword call key)
  | ownName key => .uncaught (.doubledArgument call key)
  | invalid field value reason =>
      match value.plainFault? levels with
      | none => .reported (.invalidSetting field.key value reason)
      | some fault => .uncaught (.notShowable fault)
  | noIdentifierTest sort => .uncaught (.noIdentifierTest sort)
  | notComparable operator sort => .uncaught (.notComparable operator sort)

namespace Settings

/-- The value of a setting. -/
def get (s : Settings) : Field → Value
  | .tolerant => s.tolerant
  | .importCallee => .text s.importCallee
  | .maxFileSizeMb => s.maxFileSizeMb.toValue
  | .outputFormat => .text s.outputFormat.name
  | .failAbove => (s.failAbove.map Quantity.toValue).getD .null
  | .verbosity => .text s.verbosity.name

/-! ## Checks -/

/-- The import name is an identifier. -/
def checkCallee (v : Value) : Except SettingsFault String :=
  let refused := SettingsFault.invalid .importCallee v "must be a plain identifier"
  match v with
  | .text s => if Text.isIdentifier s then .ok s else .error refused
  | _ => if v.truthy then .error (.noIdentifierTest v.sort) else .error refused

/-- The size limit is positive. -/
def checkLimit (v : Value) : Except SettingsFault Quantity :=
  match Quantity.ofValue? v with
  | none => .error (.notComparable "<=" v.sort)
  | some q =>
      if q.leInt 0 then .error (.invalid .maxFileSizeMb v "must be positive") else .ok q

/-- The output format is one of three. -/
def checkFormat (v : Value) : Except SettingsFault OutputFormat :=
  let named :=
    match v with
    | .text s => OutputFormat.ofName? s
    | _ => none
  match named with
  | some f => .ok f
  | none =>
      let names := ", ".intercalate (OutputFormat.all.map (·.name))
      .error (.invalid .outputFormat v s!"expected one of {names}")

/-- The complexity gate is off or at least one. -/
def checkGate (v : Value) : Except SettingsFault (Option Quantity) :=
  match v with
  | .null => .ok none
  | _ =>
      match Quantity.ofValue? v with
      | none => .error (.notComparable "<" v.sort)
      | some q =>
          if q.ltInt 1 then .error (.invalid .failAbove v "must be at least 1") else .ok (some q)

/-- The verbosity is one of three. -/
def checkVerbosity (v : Value) : Except SettingsFault Verbosity :=
  let named :=
    match v with
    | .text s => Verbosity.ofName? s
    | _ => none
  match named with
  | some f => .ok f
  | none =>
      let names := ", ".intercalate (Verbosity.all.map (·.name))
      .error (.invalid .verbosity v s!"expected one of {names}")

/-- The first key of a table that is no setting. -/
def unknownKey? (t : OrderedTable Value) : Option String :=
  t.keys.find? (fun k => (Field.ofKey? k).isNone)

/-- The value that a table gives a setting, or else its default. -/
def lookup (t : OrderedTable Value) (f : Field) : Value :=
  (t.get? f.key).getD (Settings.get {} f)

/-- Settings from a table of values.  Unknown keys are refused before any value is looked at; then
the values are checked in the order of the settings. -/
def ofTable (t : OrderedTable Value) : Except SettingsFault Settings :=
  match unknownKey? t with
  | some key => .error (if key = "self" then .ownName key else .unknown key)
  | none => do
      let importCallee ← checkCallee (lookup t .importCallee)
      let maxFileSizeMb ← checkLimit (lookup t .maxFileSizeMb)
      let outputFormat ← checkFormat (lookup t .outputFormat)
      let failAbove ← checkGate (lookup t .failAbove)
      let verbosity ← checkVerbosity (lookup t .verbosity)
      return {
        tolerant := lookup t .tolerant
        importCallee, maxFileSizeMb, outputFormat, failAbove, verbosity }

/-! ## What settings amount to -/

/-- The size limit in bytes: a megabyte is `1024 * 1024` of them, and a part of a byte is
dropped. -/
def maxFileBytes (s : Settings) : Except Uncaught Int :=
  match s.maxFileSizeMb with
  | .bool b => .ok ((b.toNat : Int) * 1024 * 1024)
  | .int n => .ok (n * 1024 * 1024)
  | .float x =>
      match x.scaleUp 20 with
      | .nan => .error .nanLimit
      | .infinite _ => .error .infiniteLimit
      | y => .ok (y.truncate?.getD 0)

/-- Whether damaged files are analysed. -/
def isTolerant (s : Settings) : Bool := s.tolerant.truthy

/-- Whether a complexity is above the gate. -/
def exceedsGate (s : Settings) (complexity : Int) : Bool :=
  match s.failAbove with
  | none => false
  | some q => q.ltInt complexity

end Settings

end CodeMetrics
