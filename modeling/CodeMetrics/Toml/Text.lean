import CodeMetrics.Text.CharSet

/-!
# Blanks, comments, keys and strings of TOML

Every reader takes what it reads off the front of a list of characters and
returns the rest.

* `Toml.skipBlanks`, `Toml.skipComment`, `Toml.skipFiller` — what stands between values;
* `Toml.literalString`, `Toml.basicString` and their multi-line forms;
* `Toml.key` — a dotted key.
-/

namespace CodeMetrics.Toml

/-- Why a document is refused. -/
inductive Fault where
  /-- The text is not TOML. -/
  | malformed
  /-- A whole number of more digits than are converted. -/
  | numeralTooLong (digits : Nat)
  /-- Arrays and tables inside one another beyond what is followed. -/
  | tooDeep
deriving Repr, DecidableEq, Inhabited

/-- A reader takes a value off the front of a text. -/
abbrev Reader (α : Type) := List Char → Except Fault (α × List Char)

/-- Whether the character is a blank within a line. -/
def isBlank (c : Char) : Bool := c = ' ' || c = '\t'

/-- Whether the character is a blank or ends a line. -/
def isFiller (c : Char) : Bool := isBlank c || c = '\n'

/-- Whether the character may not stand in comments and strings of one line. -/
def isIllegal (c : Char) : Bool := (c.toNat < 32 && c != '\t') || c.toNat = 127

/-- Whether the character can be part of a key without quotes. -/
def isBareKey (c : Char) : Bool := c.isAlphanum || c = '-' || c = '_'

/-- Drops the blanks at the front. -/
def skipBlanks (cs : List Char) : List Char := cs.dropWhile isBlank

/-- Drops a comment at the front, up to the end of the line. -/
def skipComment : List Char → Except Fault (List Char)
  | '#' :: rest =>
      let comment := rest.takeWhile (· != '\n')
      if comment.any isIllegal then .error .malformed else .ok (rest.dropWhile (· != '\n'))
  | cs => .ok cs

/-- Drops blanks, line ends and comments, as many times as `fuel` says at most. -/
def skipFillerWithin : Nat → List Char → Except Fault (List Char)
  | 0, cs => .ok cs
  | fuel + 1, cs => do
      let blank := cs.dropWhile isFiller
      let rest ← skipComment blank
      if rest.length = cs.length then return rest
      skipFillerWithin fuel rest

/-- Drops blanks, line ends and comments. -/
def skipFiller (cs : List Char) : Except Fault (List Char) := skipFillerWithin (cs.length + 1) cs

/-! ## Strings -/

/-- Reads up to a single quote on the same line. -/
def literalString : Reader String := fun cs =>
  let body := cs.takeWhile (· != '\'')
  match cs.dropWhile (· != '\'') with
  | _ :: rest => if body.any isIllegal then .error .malformed else .ok (String.ofList body, rest)
  | [] => .error .malformed

/-- Reads up to three single quotes. -/
def literalLines : List Char → Except Fault (List Char × List Char)
  | '\'' :: '\'' :: '\'' :: rest => .ok ([], rest)
  | c :: rest =>
      if isIllegal c && c != '\n' then .error .malformed
      else do
        let (body, rest) ← literalLines rest
        return (c :: body, rest)
  | [] => .error .malformed

/-- The value of a hexadecimal digit. -/
def hexValue? (c : Char) : Option Nat :=
  if c.isDigit then some (c.toNat - '0'.toNat)
  else if 'a' ≤ c && c ≤ 'f' then some (c.toNat - 'a'.toNat + 10)
  else if 'A' ≤ c && c ≤ 'F' then some (c.toNat - 'A'.toNat + 10)
  else none

/-- The character with a code point written in hexadecimal. -/
def charOfHex? (digits : List Char) : Option Char := do
  let values ← digits.mapM hexValue?
  let n := values.foldl (fun n d => 16 * n + d) 0
  if n.isValidChar then some (Char.ofNat n) else none

/-- The character that a one-letter escape stands for. -/
def escaped? : Char → Option Char
  | 'b' => some (Char.ofNat 8)
  | 't' => some '\t'
  | 'n' => some '\n'
  | 'f' => some (Char.ofNat 12)
  | 'r' => some '\r'
  | '"' => some '"'
  | '\\' => some '\\'
  | _ => none

/-- Where the reader of a string of several lines stands: in the text, between a backslash and the
end of its line, or before the first character that counts after that. -/
inductive LineMode where
  | body
  | toLineEnd
  | toText

/-- Puts a character in front of what has been read. -/
def prepend (c : Char) (r : Except Fault (List Char × List Char)) :
    Except Fault (List Char × List Char) :=
  match r with
  | .ok (body, rest) => .ok (c :: body, rest)
  | .error e => .error e

/-- Reads up to a double quote on the same line, with escapes. -/
def basicBody : List Char → Except Fault (List Char × List Char)
  | [] => .error .malformed
  | '"' :: rest => .ok ([], rest)
  | '\\' :: 'u' :: a :: b :: c :: d :: rest =>
      match charOfHex? [a, b, c, d] with
      | some x => prepend x (basicBody rest)
      | none => .error .malformed
  | '\\' :: 'U' :: a :: b :: c :: d :: e :: f :: g :: h :: rest =>
      match charOfHex? [a, b, c, d, e, f, g, h] with
      | some x => prepend x (basicBody rest)
      | none => .error .malformed
  | '\\' :: c :: rest =>
      match escaped? c with
      | some x => prepend x (basicBody rest)
      | none => .error .malformed
  | c :: rest =>
      if c = '\\' || isIllegal c then .error .malformed else prepend c (basicBody rest)

/-- Reads up to three double quotes, with escapes.  A backslash at the end of a line joins the line
to the next text. -/
def basicLines (mode : LineMode) : List Char → Except Fault (List Char × List Char)
  | [] => .error .malformed
  | c :: rest =>
      match mode with
      | .toLineEnd =>
          if isBlank c then basicLines .toLineEnd rest
          else if c = '\n' then basicLines .toText rest
          else .error .malformed
      | .toText | .body =>
          if isFiller c && (match mode with | .toText => true | _ => false) then
            basicLines .toText rest
          else
            match c, rest with
            | '"', '"' :: '"' :: rest => .ok ([], rest)
            | '\\', '\n' :: rest => basicLines .toText rest
            | '\\', ' ' :: rest => basicLines .toLineEnd rest
            | '\\', '\t' :: rest => basicLines .toLineEnd rest
            | '\\', 'u' :: a :: b :: c :: d :: rest =>
                match charOfHex? [a, b, c, d] with
                | some x => prepend x (basicLines .body rest)
                | none => .error .malformed
            | '\\', 'U' :: a :: b :: c :: d :: e :: f :: g :: h :: rest =>
                match charOfHex? [a, b, c, d, e, f, g, h] with
                | some x => prepend x (basicLines .body rest)
                | none => .error .malformed
            | '\\', c :: rest =>
                match escaped? c with
                | some x => prepend x (basicLines .body rest)
                | none => .error .malformed
            | c, rest =>
                if c = '\\' || (isIllegal c && c != '\n') then .error .malformed
                else prepend c (basicLines .body rest)

/-- Reads a string of one line after its opening quote. -/
def basicString : Reader String := fun cs => do
  let (body, rest) ← basicBody cs
  return (String.ofList body, rest)

/-- Drops the line end that may follow the opening quotes of a string of several lines. -/
def skipFirstLineEnd : List Char → List Char
  | '\n' :: rest => rest
  | cs => cs

/-- Up to two more quotes belong to a string that ends in more than three. -/
def closingQuotes (mark : Char) (body : List Char) : List Char → String × List Char
  | a :: b :: rest =>
      if a = mark then
        if b = mark then (String.ofList (body ++ [a, b]), rest)
        else (String.ofList (body ++ [a]), b :: rest)
      else (String.ofList body, a :: b :: rest)
  | [a] =>
      if a = mark then (String.ofList (body ++ [a]), []) else (String.ofList body, [a])
  | [] => (String.ofList body, [])

/-- Reads a string after its opening mark, which tells the sort of the string. -/
def stringOf (mark : Char) : Reader String := fun cs =>
  match cs with
  | a :: b :: rest =>
      if a = mark && b = mark then do
        let lines := skipFirstLineEnd rest
        let (body, rest) ← if mark = '"' then basicLines .body lines else literalLines lines
        return closingQuotes mark body rest
      else if mark = '"' then basicString cs else literalString cs
  | _ => if mark = '"' then basicString cs else literalString cs

/-! ## Keys -/

/-- Reads one part of a key. -/
def keyPart : Reader String := fun cs =>
  match cs with
  | '\'' :: rest => literalString rest
  | '"' :: rest => basicString rest
  | _ =>
      let bare := cs.takeWhile isBareKey
      if bare.isEmpty then .error .malformed
      else .ok (String.ofList bare, cs.dropWhile isBareKey)

/-- Reads a key of at most `fuel` parts more than one, and the blanks after it. -/
def keyWithin : Nat → Reader (List String)
  | 0, cs => do
      let (part, rest) ← keyPart cs
      return ([part], skipBlanks rest)
  | fuel + 1, cs => do
      let (part, rest) ← keyPart cs
      match skipBlanks rest with
      | '.' :: rest =>
          let (parts, rest) ← keyWithin fuel (skipBlanks rest)
          return (part :: parts, rest)
      | rest => return ([part], rest)

/-- Reads a dotted key and the blanks after it. -/
def key : Reader (List String) := fun cs => keyWithin cs.length cs

end CodeMetrics.Toml
