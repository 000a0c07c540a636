import CodeMetrics.Text.Printable

/-!
# Quoted text

How a text is shown inside a message: between quotes, with everything that
would not show, or would end the quote, written as an escape.  Single quotes
are preferred; a text that holds single quotes and no double quotes is put
between double quotes.

* `Text.quote` — the quoted form of a text;
* `Text.enumerate` — quoted texts in a row;
* `Text.missingArguments` — the complaint about a call that lacks arguments.
-/

namespace CodeMetrics.Text

/-- The last `width` hexadecimal digits of `n`, in lower case. -/
def hexDigits (width n : Nat) : List Char :=
  (List.range width).reverse.map (fun i => Nat.digitChar (n / Nat.pow 16 i % 16))

/-- The last `width` hexadecimal digits of `n` as a text. -/
def hex (width n : Nat) : String := String.ofList (hexDigits width n)

/-- One character of a quoted text. -/
def quoteChar (mark : Char) (c : Char) : String :=
  if c = mark || c = '\\' then String.ofList ['\\', c]
  else if c = '\n' then "\\n"
  else if c = '\r' then "\\r"
  else if c = '\t' then "\\t"
  else if isPrintable c then c.toString
  else if c.toNat < 0x100 then "\\x" ++ hex 2 c.toNat
  else if c.toNat < 0x10000 then "\\u" ++ hex 4 c.toNat
  else "\\U" ++ hex 8 c.toNat

/-- The mark that a text is put between. -/
def quoteMark (s : String) : Char :=
  if s.toList.contains '\'' && !s.toList.contains '"' then '"' else '\''

/-- The quoted form of a text. -/
def quote (s : String) : String :=
  let mark := quoteMark s
  mark.toString ++ String.join (s.toList.map (quoteChar mark)) ++ mark.toString

/-- Quoted names in a row, as in `'a', 'b', and 'c'`. -/
def enumerate (names : List String) : String :=
  match names.reverse.map quote with
  | [] => ""
  | [only] => only
  | [second, first] => first ++ " and " ++ second
  | last :: others => ", ".intercalate others.reverse ++ ", and " ++ last

/-- The complaint about a call that lacks arguments. -/
def missingArguments (call : String) (names : List String) : String :=
  let noun := if names.length = 1 then "argument" else "arguments"
  s!"{call}() missing {names.length} required positional {noun}: {enumerate names}"

end CodeMetrics.Text
