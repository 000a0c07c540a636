import CodeMetrics.OrderedTable
import CodeMetrics.Toml.Scalar

/-!
# TOML documents

A document is a list of statements: `key = value`, `[table]` and `[[array of
tables]]`.  A table can be opened once, a key can be written once, and what
was written in one piece cannot be extended later.

* `Toml.value` — a value of any sort;
* `Toml.Namespaces` — which tables are closed to later statements;
* `Toml.read` — the table that a document describes.
-/

namespace CodeMetrics.Toml

/-- The entries of a table in order. -/
abbrev Entries := List (String × Value)

/-- The value under a key. -/
def Entries.get? (t : Entries) (k : String) : Option Value :=
  (t.find? (fun e => e.1 == k)).map (·.2)

/-- Changes the table behind a dotted key, which is made if it is not there.  Behind an array of
tables stands its last table, where `intoArrays` allows it. -/
def updateAt (intoArrays : Bool) (change : Entries → Except Fault Entries) :
    List String → Entries → Except Fault Entries
  | [], t => change t
  | k :: ks, t =>
      match Entries.get? t k with
      | none => do
          let inner ← updateAt intoArrays change ks []
          return OrderedTable.put k (.table inner) t
      | some (.table inner) => do
          let inner ← updateAt intoArrays change ks inner
          return OrderedTable.put k (.table inner) t
      | some (.array items) =>
          match intoArrays, items.getLast? with
          | true, some (.table inner) => do
              let inner ← updateAt intoArrays change ks inner
              return OrderedTable.put k (.array (items.dropLast ++ [.table inner])) t
          | _, _ => .error .malformed
      | some _ => .error .malformed

/-- Writes a new entry; a key is written once. -/
def addEntry (k : String) (v : Value) (t : Entries) : Except Fault Entries :=
  match Entries.get? t k with
  | some _ => .error .malformed
  | none => .ok (t ++ [(k, v)])

/-- Adds an empty table to the array of tables under a key. -/
def addTable (k : String) (t : Entries) : Except Fault Entries :=
  match Entries.get? t k with
  | none => .ok (t ++ [(k, .array [.table []])])
  | some (.array items) => .ok (OrderedTable.put k (.array (items ++ [.table []])) t)
  | some _ => .error .malformed

/-- Whether a value is written in one piece, so that nothing can be added to it later. -/
def isSealed : Value → Bool
  | .array _ => true
  | .table _ => true
  | _ => false

/-! ## Values -/

mutual

/-- Reads a value.  The fuel bounds the length of what is read, and `room` how deep arrays and
tables go: an array takes two levels and a table three. -/
def valueWithin : Nat → Nat → Reader Value
  | 0, _, _ => .error .malformed
  | fuel + 1, room, cs =>
      match cs with
      | '"' :: rest => do
          let (s, rest) ← stringOf '"' rest
          return (.text s, rest)
      | '\'' :: rest => do
          let (s, rest) ← stringOf '\'' rest
          return (.text s, rest)
      | 't' :: 'r' :: 'u' :: 'e' :: rest => .ok (.bool true, rest)
      | 'f' :: 'a' :: 'l' :: 's' :: 'e' :: rest => .ok (.bool false, rest)
      | '[' :: rest => do
          if room < 2 then .error .tooDeep
          let (items, rest) ← itemsWithin fuel (room - 2) (← skipFiller rest)
          return (.array items, rest)
      | '\x7b' :: rest =>
          match skipBlanks rest with
          | '\x7d' :: rest => .ok (.table [], rest)
          | rest => do
              if room < 3 then .error .tooDeep
              let (entries, rest) ← entriesWithin fuel (room - 3) [] [] rest
              return (.table entries, rest)
      | _ => scalar cs

/-- Reads the items of an array from the first character of an item or the closing bracket. -/
def itemsWithin : Nat → Nat → Reader (List Value)
  | 0, _, _ => .error .malformed
  | _ + 1, _, ']' :: rest => .ok ([], rest)
  | fuel + 1, room, cs => do
      let (v, rest) ← valueWithin fuel room cs
      match ← skipFiller rest with
      | ']' :: rest => return ([v], rest)
      | ',' :: rest =>
          let (more, rest) ← itemsWithin fuel room (← skipFiller rest)
          return (v :: more, rest)
      | _ => .error .malformed

/-- Reads the entries of an inline table from the first character of a key.  `closed` lists the
keys whose values can no longer be extended. -/
def entriesWithin : Nat → Nat → List (List String) → Entries → Reader Entries
  | 0, _, _, _, _ => .error .malformed
  | fuel + 1, room, closed, t, cs => do
      let (path, rest) ← key cs
      let rest ← match rest with
        | '=' :: rest => pure (skipBlanks rest)
        | _ => .error .malformed
      let (v, rest) ← valueWithin fuel room rest
      if closed.any (·.isPrefixOf path) then .error .malformed
      else
        let t ← updateAt false (addEntry (path.getLast?.getD "") v) path.dropLast t
        match skipBlanks rest with
        | '\x7d' :: rest => return (t, rest)
        | ',' :: rest =>
            let closed := if isSealed v then path :: closed else closed
            entriesWithin fuel room closed t (skipBlanks rest)
        | _ => .error .malformed

end

/-- Reads a value in which arrays and tables take no more than a number of levels. -/
def value (levels : Nat) : Reader Value := fun cs => valueWithin (3 * cs.length + 3) levels cs

/-! ## Statements -/

/-- Which tables later statements may not open or extend. -/
structure Namespaces where
  /-- Tables that have been opened. -/
  opened : List (List String) := []
  /-- Keys whose values were written in one piece. -/
  closed : List (List String) := []
  /-- Tables made by dotted keys since the last heading. -/
  pending : List (List String) := []

namespace Namespaces

/-- Whether a table has been opened. -/
def isOpened (n : Namespaces) (path : List String) : Bool := n.opened.contains path

/-- Whether a key lies in something that was written in one piece. -/
def isClosed (n : Namespaces) (path : List String) : Bool :=
  n.closed.any (·.isPrefixOf path)

/-- Opens the tables that dotted keys have made. -/
def settle (n : Namespaces) : Namespaces :=
  { n with opened := n.pending ++ n.opened, pending := [] }

/-- Opens a table. -/
def openTable (n : Namespaces) (path : List String) : Namespaces :=
  { n with opened := path :: n.opened }

/-- Forgets what is known of a key and everything below it. -/
def forget (n : Namespaces) (path : List String) : Namespaces :=
  { n with
    opened := n.opened.filter (fun p => !path.isPrefixOf p)
    closed := n.closed.filter (fun p => !path.isPrefixOf p) }

end Namespaces

/-- What has been read of a document. -/
structure Progress where
  data : Entries := []
  names : Namespaces := {}
  /-- The table that plain keys belong to. -/
  heading : List String := []

/-- The paths of the tables that a dotted key passes through, below a heading. -/
def passedThrough (heading path : List String) : List (List String) :=
  ((List.range path.length).drop 1).map (fun n => heading ++ path.take n)

/-- Reads `key = value`. -/
def entry (levels : Nat) (p : Progress) : Reader Progress := fun cs => do
  let (path, rest) ← key cs
  let rest ← match rest with
    | '=' :: rest => pure (skipBlanks rest)
    | _ => .error .malformed
  let (v, rest) ← value levels rest
  let passed := passedThrough p.heading path
  let parent := p.heading ++ path.dropLast
  if passed.any p.names.isOpened || p.names.isClosed parent then .error .malformed
  else
    let data ← updateAt true (addEntry (path.getLast?.getD "") v) parent p.data
    let names := { p.names with pending := passed ++ p.names.pending }
    let names :=
      if isSealed v then { names with closed := (p.heading ++ path) :: names.closed } else names
    return ({ p with data, names }, rest)

/-- Reads `[table]` after its first bracket. -/
def tableHeading (p : Progress) : Reader Progress := fun cs => do
  let (path, rest) ← key (skipBlanks cs)
  let names := p.names.settle
  if names.isOpened path || names.isClosed path then .error .malformed
  else
    let data ← updateAt true .ok path p.data
    match rest with
    | ']' :: rest => return ({ data, names := names.openTable path, heading := path }, rest)
    | _ => .error .malformed

/-- Reads `[[array of tables]]` after its first two brackets.  The new table starts afresh, whatever
the tables before it held. -/
def arrayHeading (p : Progress) : Reader Progress := fun cs => do
  let (path, rest) ← key (skipBlanks cs)
  let names := p.names.settle
  if names.isClosed path then .error .malformed
  else
    let data ← updateAt true (addTable (path.getLast?.getD "")) path.dropLast p.data
    match rest with
    | ']' :: ']' :: rest =>
        return ({ data, names := (names.forget path).openTable path, heading := path }, rest)
    | _ => .error .malformed

/-- Reads the statement at the front of a line; a comment or nothing is a statement too. -/
def statement (levels : Nat) (p : Progress) : Reader Progress := fun cs =>
  match cs with
  | '[' :: '[' :: rest => arrayHeading p rest
  | '[' :: rest => tableHeading p rest
  | c :: _ =>
      if isBareKey c || c = '"' || c = '\'' then entry levels p cs
      else if c = '#' || c = '\n' then .ok (p, cs)
      else .error .malformed
  | [] => .ok (p, cs)

/-- Reads at most `fuel` lines. -/
def statementsWithin (levels : Nat) : Nat → Progress → List Char → Except Fault Progress
  | 0, _, _ => .error .malformed
  | fuel + 1, p, cs => do
      let (p, rest) ← statement levels p (skipBlanks cs)
      match ← skipComment (skipBlanks rest) with
      | [] => return p
      | '\n' :: rest => statementsWithin levels fuel p rest
      | _ => .error .malformed

/-- Joins the two characters of a line end into one. -/
def joinLineEnds : List Char → List Char
  | '\r' :: '\n' :: rest => '\n' :: joinLineEnds rest
  | c :: rest => c :: joinLineEnds rest
  | [] => []

/-- The table that a document describes, if arrays and tables written in one piece take no more than
a number of levels inside one another. -/
def read (levels : Nat) (s : String) : Except Fault Entries := do
  let cs := joinLineEnds s.toList
  return (← statementsWithin levels (cs.length + 1) {} cs).data

end CodeMetrics.Toml
