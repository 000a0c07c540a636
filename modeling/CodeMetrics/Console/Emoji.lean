import CodeMetrics.Console.Cells
import CodeMetrics.Console.EmojiTable

/-!
# Pictures by name

In console text a name between colons stands for a picture.  A name may end in
`-text` or `-emoji`, which asks for the picture to be shown as a symbol or in
colour.

* `Emoji.picture?` — the picture that a name stands for;
* `Emoji.replace` — a text with pictures in place of their names.
-/

namespace CodeMetrics.Emoji

/-- A name with its picture. -/
def ofCell (cell : String) : String × String :=
  match cell.splitOn ":" with
  | [name, picture] => (name, picture)
  | _ => (cell, "")

/-- Every name with its picture. -/
def table : List (String × String) := rows.flatMap (fun row => (row.splitOn " ").map ofCell)

/-- The lower case of a character, as far as names need it: no other character has a lower case that
occurs in a name. -/
def lower (c : Char) : Char :=
  if c = '\u212a' then 'k'
  else if c = '\u212b' then 'å'
  else if 'À' ≤ c && c ≤ 'Þ' && c != '×' then Char.ofNat (c.toNat + 32)
  else c.toLower

/-- Takes an ending off a text. -/
def dropEnding? (ending : String) (cs : List Char) : Option (List Char) :=
  let rest := cs.take (cs.length - ending.length)
  if rest ++ ending.toList = cs then some rest else none

/-- The name in what stands between colons, and the selector that its ending asks for. -/
def variant (code : List Char) : List Char × List Char :=
  match dropEnding? "-text" code, dropEnding? "-emoji" code with
  | some name, _ => (name, ['\ufe0e'])
  | none, some name => (name, ['\ufe0f'])
  | none, none => (code, [])

/-- The picture that stands for what stands between colons. -/
def picture? (code : List Char) : Option (List Char) :=
  let (name, selector) := variant code
  (table.lookup (String.ofList (name.map lower))).map (fun p => p.toList ++ selector)

/-- Replaces names in the parts of a text that follow its first colon.  A name holds no blank; a
part between colons that is no name keeps its colons. -/
def replaceParts : List (List Char) → List Char
  | [] => []
  | [last] => ':' :: last
  | part :: next :: rest =>
      if part.any Cells.isSpace then ':' :: part ++ replaceParts (next :: rest)
      else (picture? part).getD (':' :: part ++ [':']) ++ next ++ replaceParts rest

/-- A text with pictures in place of their names. -/
def replace (cs : List Char) : List Char :=
  match cs.splitOn ':' with
  | [] => []
  | first :: parts => first ++ replaceParts parts

end CodeMetrics.Emoji
