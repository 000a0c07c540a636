import CodeMetrics.Metrics.Function
import CodeMetrics.Metrics.File
import CodeMetrics.OrderedTable

/-!
# The analysis of a tree

One walk over a file updates the file's counters at every node and measures
every declaration it meets.  A later declaration of the same name takes the
place of the earlier one.

* `Analysis` — everything computed for one file;
* `Analysis.registry` — its records, the file's first;
* `Cursor.analyze` — the analysis of the subtree at a cursor, with what it reports.
-/

namespace CodeMetrics

/-- Everything computed for one file. -/
structure Analysis where
  file : FileRecord
  language : String := "javascript"
  functions : OrderedTable FunctionRecord := {}
deriving Repr, DecidableEq, Inhabited

/-- The key of a record: files and functions never collide, whatever they are called. -/
inductive RegistryKey where
  | file (path : String)
  | function (name : String)
deriving Repr, DecidableEq, Inhabited

/-- A record of either sort. -/
inductive MetricsRecord where
  | file (record : FileRecord)
  | function (record : FunctionRecord)
deriving Repr, DecidableEq, Inhabited

namespace RegistryKey

/-- What the key stands for. -/
def kind : RegistryKey → String
  | file _ => "file"
  | function _ => "function"

/-- The path or name in the key. -/
def name : RegistryKey → String
  | file path => path
  | function name => name

/-- The key of a record of the given kind. -/
def ofKind? (kind name : String) : Option RegistryKey :=
  match kind with
  | "file" => some (file name)
  | "function" => some (function name)
  | _ => none

theorem ofKind?_kind_name (k : RegistryKey) : ofKind? k.kind k.name = some k := by
  cases k <;> rfl

end RegistryKey

namespace Analysis

/-- Every record: the file's first, then the functions' in order. -/
def registry (a : Analysis) : List (RegistryKey × MetricsRecord) :=
  (.file a.file.path, .file a.file) ::
    a.functions.entries.map (fun e => (.function e.1, .function e.2))

/-- The record under a key. -/
def find? (a : Analysis) (key : RegistryKey) : Option MetricsRecord :=
  (a.registry.find? (fun e => e.1 == key)).map (·.2)

/-- The highest complexity among the functions, and zero if there are none. -/
def maxComplexity (a : Analysis) : Int :=
  match a.functions.values.map (·.cyclomaticComplexity) with
  | [] => 0
  | first :: rest => rest.foldl max first

end Analysis

/-- Why an access to an analysis is refused: it can be read and extended, not changed in place. -/
inductive AccessFault where
  /-- There is no function under the name. -/
  | noFunction (name : String)
  /-- There is no record of the kind under the name. -/
  | noRecord (kind name : String)
  /-- Records cannot be changed. -/
  | frozenField (name : String)
  /-- The registry cannot be changed. -/
  | readOnlyRegistry
deriving Repr, DecidableEq, Inhabited

/-- The wording of a refusal. -/
def AccessFault.message : AccessFault → String
  | noFunction name => Text.quote name
  | noRecord kind name => "(" ++ Text.quote kind ++ ", " ++ Text.quote name ++ ")"
  | frozenField name => s!"cannot assign to field {Text.quote name}"
  | readOnlyRegistry => "'mappingproxy' object does not support item assignment"

namespace Analysis

/-- The record of a function. -/
def function (a : Analysis) (name : String) : Except AccessFault FunctionRecord :=
  match a.functions.get? name with
  | some r => .ok r
  | none => .error (.noFunction name)

/-- The record of a kind under a name. -/
def get (a : Analysis) (kind name : String) : Except AccessFault MetricsRecord :=
  match (RegistryKey.ofKind? kind name).bind a.find? with
  | some r => .ok r
  | none => .error (.noRecord kind name)

/-- The analysis without a function. -/
def erase (a : Analysis) (name : String) : Except AccessFault Analysis :=
  match a.functions.get? name with
  | some _ => .ok { a with functions := a.functions.erase name }
  | none => .error (.noFunction name)

/-- The outcome of an attempt to change a field of a function's record. -/
def assignFunction (a : Analysis) (name field : String) : AccessFault :=
  match a.functions.get? name with
  | some _ => .frozenField field
  | none => .noFunction name

end Analysis

/-! ## The walk -/

/-- What the walk over a file carries along. -/
structure FileScan where
  counters : FileTally := {}
  functions : OrderedTable FunctionRecord := {}
  events : List Event := []
deriving Repr, DecidableEq, Inhabited

namespace FileScan

/-- The scan after one more declaration. -/
def declare (s : FileScan) (c : Cursor) : FileScan :=
  let (record, reported) := c.measure
  let replaced :=
    match s.functions.get? record.name with
    | some previous => [.replaced record.name record.startLine previous.startLine]
    | none => []
  { s with
    functions := s.functions.insert record.name record
    events := s.events ++ reported ++ replaced ++ [.collected record] }

/-- The scan after one more node. -/
def visit (callee : String) (parents : Parents) (s : FileScan) (c : Cursor) : FileScan :=
  let kind := c.kind
  let s := if kind = .functionDeclaration then s.declare c else s
  { s with counters := s.counters.visit callee parents c kind }

end FileScan

namespace Cursor

/-- The scan of the whole subtree. -/
def scan (callee : String) (c : Cursor) : FileScan :=
  (c.walk (FileScan.visit callee) Parents.empty {}).2

/-- The analysis of the subtree as a file called `path`, with what it reports. -/
def analyze (c : Cursor) (path language callee : String) : Analysis × List Event :=
  let s := c.scan callee
  ({ file := s.counters.record path, language, functions := s.functions }, s.events)

end Cursor

/-- The name whose calls import a module, unless another is chosen. -/
def defaultCallee : String := "require"

end CodeMetrics
