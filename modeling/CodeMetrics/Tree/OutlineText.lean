import CodeMetrics.Tree.Outline

/-!
# Outlines as text

An outline is written one node a line.  A line holds the depth, the type and
the row of its node and any remarks on it, with tabs between them; an empty
line ends the outline.  Inside a word a backslash brings in what would end it:
`\t`, `\n` and `\\` stand for a tab, a line end and a backslash.

* `Outline.unescape` — the text that a word stands for;
* `Outline.entry?` — the entry of a line;
* `Outline.trees?` — the trees of a text.
-/

namespace CodeMetrics.Outline

/-- The text that a word stands for. -/
def unescape : List Char → List Char
  | '\\' :: 't' :: rest => '\t' :: unescape rest
  | '\\' :: 'n' :: rest => '\n' :: unescape rest
  | '\\' :: '\\' :: rest => '\\' :: unescape rest
  | c :: rest => c :: unescape rest
  | [] => []

/-- A label with one more remark: `token`, `damaged`, `missing`, `field=…` or `text=…`. -/
def remark? (label : Label) (word : String) : Option Label :=
  let name := String.ofList (word.toList.takeWhile (· ≠ '='))
  match name, word.toList.dropWhile (· ≠ '=') with
  | "token", [] => some { label with named := false }
  | "damaged", [] => some { label with damaged := true }
  | "missing", [] => some { label with missing := true }
  | "field", _ :: value => some { label with field? := some (String.ofList (unescape value)) }
  | "text", _ :: value => some { label with text? := some (String.ofList (unescape value)) }
  | _, _ => none

/-- The entry of a line. -/
def entry? (line : String) : Option OutlineEntry :=
  match line.splitOn "\t" with
  | depth :: type :: row :: remarks => do
      let label : Label := { type := String.ofList (unescape type.toList), row := ← row.toNat? }
      return { depth := ← depth.toNat?, label := ← remarks.foldlM remark? label }
  | _ => none

/-- The trees of a text, or nothing if one of its lines makes no sense. -/
def trees? (text : String) : Option (List Node) :=
  let blocks := ((text.splitOn "\n").splitOn "").filter (fun lines => !lines.isEmpty)
  blocks.mapM (fun lines => do node? (← lines.mapM entry?))

end CodeMetrics.Outline
