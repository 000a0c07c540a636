import CodeMetrics.Metrics.Result

/-!
# The report as JSON

A report is a list with one object for every file.  It is written in ASCII,
with two spaces of indentation for every level; characters beyond ASCII are
escaped by their UTF-16 units.

* `JsonValue` — the documents a report is made of;
* `JsonValue.write` — their written form;
* `Report.document` — the document of a list of analyses.
-/

namespace CodeMetrics

/-- Documents of texts, integers, lists and objects; the fields of an object are in order. -/
inductive JsonValue where
  | text (s : String)
  | number (n : Int)
  | array (items : List JsonValue)
  | object (fields : List (String × JsonValue))
deriving Repr, Inhabited

namespace JsonValue

/-- The UTF-16 units of a character. -/
def units (c : Char) : List Nat :=
  if c.toNat < 0x10000 then [c.toNat]
  else [0xD800 + (c.toNat - 0x10000) / 0x400, 0xDC00 + (c.toNat - 0x10000) % 0x400]

/-- The escape of one UTF-16 unit. -/
def escapeUnit (n : Nat) : List Char := '\\' :: 'u' :: Text.hexDigits 4 n

/-- One character between quotes. -/
def escapeChar (c : Char) : List Char :=
  if c = '"' then ['\\', '"']
  else if c = '\\' then ['\\', '\\']
  else if c = '\n' then ['\\', 'n']
  else if c = '\r' then ['\\', 'r']
  else if c = '\t' then ['\\', 't']
  else if c.toNat = 8 then ['\\', 'b']
  else if c.toNat = 12 then ['\\', 'f']
  else if 32 ≤ c.toNat && c.toNat ≤ 126 then [c]
  else (units c).flatMap escapeUnit

/-- A text between quotes. -/
def quoted (s : String) : List Char := '"' :: (s.toList.flatMap escapeChar ++ ['"'])

/-- A new line, indented to a level. -/
def newLine (level : Nat) : List Char := '\n' :: List.replicate (2 * level) ' '

mutual

/-- The written form of a document whose first line stands at a level. -/
def chars (level : Nat) : JsonValue → List Char
  | text s => quoted s
  | number n => (toString n).toList
  | array [] => ['[', ']']
  | array (x :: rest) =>
      '[' :: (newLine (level + 1) ++ chars (level + 1) x ++ moreItems (level + 1) rest
        ++ newLine level ++ [']'])
  | object [] => ['\x7b', '\x7d']
  | object ((k, x) :: rest) =>
      '\x7b' :: (newLine (level + 1) ++ quoted k ++ [':', ' '] ++ chars (level + 1) x
        ++ moreFields (level + 1) rest ++ newLine level ++ ['\x7d'])

/-- The items after the first, each on a line of its own. -/
def moreItems (level : Nat) : List JsonValue → List Char
  | [] => []
  | x :: rest => ',' :: (newLine level ++ chars level x ++ moreItems level rest)

/-- The fields after the first, each on a line of its own. -/
def moreFields (level : Nat) : List (String × JsonValue) → List Char
  | [] => []
  | (k, x) :: rest =>
      ',' :: (newLine level ++ quoted k ++ [':', ' '] ++ chars level x ++ moreFields level rest)

end

/-- The written form of a document. -/
def write (v : JsonValue) : String := String.ofList (chars 0 v)

end JsonValue

namespace Report

/-- The document of a function's record. -/
def functionDocument (r : FunctionRecord) : JsonValue :=
  .object (("name", .text r.name) :: r.numbers.map (fun f => (f.1, .number f.2)))

/-- The document of a file's record. -/
def fileDocument (r : FileRecord) : JsonValue :=
  .object (("path", .text r.path) :: r.counts.map (fun f => (f.1, .number f.2)))

/-- The document of an analysis. -/
def analysisDocument (a : Analysis) : JsonValue :=
  .object
    [("file", fileDocument a.file),
     ("language", .text a.language),
     ("functions", .array (a.functions.values.map functionDocument))]

/-- The document of a list of analyses. -/
def document (analyses : List Analysis) : JsonValue := .array (analyses.map analysisDocument)

/-- The report on a list of analyses as JSON. -/
def json (analyses : List Analysis) : String := (document analyses).write

end Report

end CodeMetrics
