import CodeMetrics.Value.Basic

/-!
# Records of measures

What the analysis has to say about one function and about one file.

* `FunctionRecord`, `FileRecord` — the measures of a function and of a file;
* `FunctionRecord.check?`, `FileRecord.check?` — the first rule that a record breaks;
* `FunctionRecord.ofFields`, `FileRecord.ofFields` — a record from named values, checked;
* `FunctionRecord.display`, `FileRecord.display` — a record on one line, for messages.
-/

namespace CodeMetrics

/-- The measures of one function declaration. -/
structure FunctionRecord where
  /-- The declared name, or a label made from the line. -/
  name : String
  /-- The line the declaration starts on, counted from one. -/
  startLine : Int
  /-- The length of the parameter list. -/
  parameterCount : Int := 0
  /-- One more than the number of decisions. -/
  cyclomaticComplexity : Int := 1
  /-- The largest number of decisions strictly inside one decision. -/
  maxNestingDepth : Int := 0
  /-- The largest number of joined conditions inside one conditional. -/
  maxConditions : Int := 0
  /-- The number of return statements. -/
  returns : Int := 0
  /-- The largest number of member accesses within one member access of the body. -/
  maxMessageChains : Int := 0
deriving Repr, DecidableEq, Inhabited

/-- The measures of one file. -/
structure FileRecord where
  /-- The label of the file. -/
  path : String
  /-- The number of string literals, import specifiers excepted. -/
  strings : Int := 0
  /-- The number of import calls. -/
  packageComplexity : Int := 0
  /-- The weight of all conditionals: the conditions each one joins, and at least one. -/
  allConditions : Int := 0
deriving Repr, DecidableEq, Inhabited

/-- Why a record is refused. -/
inductive RecordFault where
  /-- A field that records of this sort do not have. -/
  | unknownField (sort name : String)
  /-- The name that records of this sort have for themselves. -/
  | ownName (sort name : String)
  /-- Fields without a value. -/
  | missingFields (sort : String) (names : List String)
  /-- A function has a complexity of one at the least. -/
  | complexityBelowOne
  /-- A count below zero. -/
  | negative (name : String)
  /-- A value of a sort that cannot be compared with a number. -/
  | notComparable (sort : String)
deriving Repr, DecidableEq, Inhabited

/-- The wording of a refusal. -/
def RecordFault.message : RecordFault → String
  | unknownField sort name => s!"{sort}.__init__() got an unexpected keyword argument '{name}'"
  | ownName sort name => s!"{sort}.__init__() got multiple values for argument '{name}'"
  | missingFields sort names => Text.missingArguments (sort ++ ".__init__") names
  | complexityBelowOne => "cyclomatic_complexity must be at least 1"
  | negative name => s!"{name} must be non-negative"
  | notComparable sort => s!"'<' not supported between instances of '{sort}' and 'int'"

/-! ## Named values -/

namespace RecordFault

/-- Refuses the first name that is not known, then any required names that are not given. -/
def ofNames? (sort : String) (known required given : List String) : Option RecordFault :=
  match given.find? (fun n => !known.contains n) with
  | some n => some (if n = "self" then .ownName sort n else .unknownField sort n)
  | none =>
      match required.filter (fun n => !given.contains n) with
      | [] => none
      | names => some (.missingFields sort names)

end RecordFault

namespace Value

/-- The whole number that a value is; a truth value counts as zero or one. -/
def whole? : Value → Option Int
  | bool b => some b.toNat
  | int n => some n
  | _ => none

/-- The text under a name. -/
def textAt (fields : List (String × Value)) (name : String) : String :=
  match fields.lookup name with
  | some v => v.plain
  | none => ""

/-- The whole number under a name, or else a default. -/
def intAt (fields : List (String × Value)) (name : String) (fallback : Int) : Int :=
  ((fields.lookup name).bind whole?).getD fallback

/-- The count under a name, or else the least count there can be, checked against that. -/
def countAt (fields : List (String × Value)) (name : String) (least : Int)
    (tooSmall : RecordFault) : Except RecordFault Int :=
  match fields.lookup name with
  | none => .ok least
  | some v =>
      match v.whole? with
      | none => .error (.notComparable v.sort)
      | some n => if n < least then .error tooSmall else .ok n

end Value

namespace FunctionRecord

/-- The name of this sort of record in messages. -/
def sort : String := "FunctionMetrics"

/-- The integer fields in order, under their written names. -/
def numbers (r : FunctionRecord) : List (String × Int) :=
  [("start_line", r.startLine),
   ("parameter_count", r.parameterCount),
   ("cyclomatic_complexity", r.cyclomaticComplexity),
   ("max_nesting_depth", r.maxNestingDepth),
   ("max_conditions", r.maxConditions),
   ("returns", r.returns),
   ("max_message_chains", r.maxMessageChains)]

/-- The fields that must not be negative, in the order in which they are looked at. -/
def counts (r : FunctionRecord) : List (String × Int) :=
  [("parameter_count", r.parameterCount),
   ("max_nesting_depth", r.maxNestingDepth),
   ("max_conditions", r.maxConditions),
   ("returns", r.returns),
   ("max_message_chains", r.maxMessageChains)]

/-- The first rule that the record breaks. -/
def check? (r : FunctionRecord) : Option RecordFault :=
  if r.cyclomaticComplexity < 1 then some .complexityBelowOne
  else (r.counts.find? (fun f => f.2 < 0)).map (fun f => .negative f.1)

/-- The record of named values, unless a name or a rule stands against it.  The rules are looked at
in the order of `check?`. -/
def ofFields (fields : List (String × Value)) : Except RecordFault FunctionRecord :=
  let known := "name" :: (numbers { name := "", startLine := 0 }).map (·.1)
  match RecordFault.ofNames? sort known ["name", "start_line"] (fields.map (·.1)) with
  | some fault => .error fault
  | none => do
      let count (name : String) := Value.countAt fields name 0 (.negative name)
      let cyclomaticComplexity ←
        Value.countAt fields "cyclomatic_complexity" 1 .complexityBelowOne
      let parameterCount ← count "parameter_count"
      let maxNestingDepth ← count "max_nesting_depth"
      let maxConditions ← count "max_conditions"
      let returns ← count "returns"
      let maxMessageChains ← count "max_message_chains"
      return {
        name := Value.textAt fields "name"
        startLine := Value.intAt fields "start_line" 0
        parameterCount, cyclomaticComplexity, maxNestingDepth, maxConditions, returns,
        maxMessageChains }

/-- The record on one line. -/
def display (r : FunctionRecord) : String :=
  let fields := ("name=" ++ Text.quote r.name) :: r.numbers.map (fun f => s!"{f.1}={f.2}")
  sort ++ "(" ++ ", ".intercalate fields ++ ")"

end FunctionRecord

namespace FileRecord

/-- The name of this sort of record in messages. -/
def sort : String := "FileMetrics"

/-- The counts in order, under their written names. -/
def counts (r : FileRecord) : List (String × Int) :=
  [("strings", r.strings),
   ("package_complexity", r.packageComplexity),
   ("all_conditions", r.allConditions)]

/-- The first rule that the record breaks. -/
def check? (r : FileRecord) : Option RecordFault :=
  (r.counts.find? (fun f => f.2 < 0)).map (fun f => .negative f.1)

/-- The record of named values, unless a name or a rule stands against it.  The rules are looked at
in the order of `check?`. -/
def ofFields (fields : List (String × Value)) : Except RecordFault FileRecord :=
  let known := "path" :: (counts { path := "" }).map (·.1)
  match RecordFault.ofNames? sort known ["path"] (fields.map (·.1)) with
  | some fault => .error fault
  | none => do
      let count (name : String) := Value.countAt fields name 0 (.negative name)
      let strings ← count "strings"
      let packageComplexity ← count "package_complexity"
      let allConditions ← count "all_conditions"
      return { path := Value.textAt fields "path", strings, packageComplexity, allConditions }

/-- The record on one line. -/
def display (r : FileRecord) : String :=
  let fields := ("path=" ++ Text.quote r.path) :: r.counts.map (fun f => s!"{f.1}={f.2}")
  sort ++ "(" ++ ", ".intercalate fields ++ ")"

end FileRecord

end CodeMetrics
