import CodeMetrics.Files.Path

/-!
# Languages

The languages with a grammar, and the endings of file names that tell them
apart.

* `Language.ofPath?` — the language of a file, by its ending in any mix of cases;
* `Language.ofName?` — the language with a given name.
-/

namespace CodeMetrics

/-- A language with a grammar. -/
inductive Language where
  | javascript
  | typescript
  | tsx
deriving Repr, DecidableEq, Inhabited

namespace Language

/-- The name of a language. -/
def name : Language → String
  | javascript => "javascript"
  | typescript => "typescript"
  | tsx => "tsx"

/-- Every language once. -/
def all : List Language := [javascript, typescript, tsx]

/-- The names of all languages. -/
def supported : List String := all.map name

/-- The language with a given name. -/
def ofName? (s : String) : Option Language := all.find? (fun l => l.name == s)

/-- The language of an ending in lower case. -/
def ofSuffix? : String → Option Language
  | ".js" => some javascript
  | ".mjs" => some javascript
  | ".cjs" => some javascript
  | ".jsx" => some javascript
  | ".ts" => some typescript
  | ".mts" => some typescript
  | ".cts" => some typescript
  | ".tsx" => some tsx
  | _ => none

/-- The language of a file.  No letter beyond ASCII has a lower case that occurs in an ending, so
lower-casing ASCII letters is enough. -/
def ofPath? (p : Path) : Option Language := ofSuffix? (p.suffix.map Char.toLower)

theorem ofName?_name (l : Language) : ofName? l.name = some l := by
  cases l <;> decide

end Language

end CodeMetrics
