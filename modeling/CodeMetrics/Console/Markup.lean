import CodeMetrics.Console.Emoji

/-!
# Markup

Console text can hold tags in square brackets that set a style.  A backslash
in front of a tag takes its power away, and a backslash in front of that one
gives it back.  Names between colons stand for pictures.

* `Markup.escape` — a text in which nothing counts as a tag;
* `Markup.plain` — what markup shows when styles are left out;
* `Markup.printed?` — the same as lines of the console.
-/

namespace CodeMetrics.Markup

/-- Whether a character can be the first of a tag. -/
def startsTag (c : Char) : Bool := ('a' ≤ c && c ≤ 'z') || c = '#' || c = '/' || c = '@'

/-- The tag at the front of a text, without its brackets, and what follows it. -/
def tag? : List Char → Option (List Char × List Char)
  | '[' :: c :: rest =>
      if startsTag c then
        let inside (d : Char) : Bool := d != '[' && d != ']'
        match rest.dropWhile inside with
        | ']' :: after => some (c :: rest.takeWhile inside, after)
        | _ => none
      else none
  | _ => none

/-- A part of a markup text. -/
inductive Piece where
  | text (cs : List Char)
  /-- A tag with the number of backslashes in front of it. -/
  | tag (backslashes : Nat) (body : List Char)
deriving Repr, DecidableEq, Inhabited

/-- The text of a run, which is kept last character first, with backslashes behind it. -/
def runText (run : List Char) (slashes : Nat) : List Char :=
  (List.replicate slashes '\\' ++ run).reverse

/-- The pieces of a text.  `run` is the text since the last tag, last character first, and `slashes`
the backslashes after it. -/
def piecesWithin : Nat → List Char → Nat → List Char → List Piece
  | 0, run, slashes, cs => [.text (runText run slashes ++ cs)]
  | _ + 1, run, slashes, [] => [.text (runText run slashes)]
  | fuel + 1, run, slashes, c :: rest =>
      if c = '\\' then piecesWithin fuel run (slashes + 1) rest
      else
        match tag? (c :: rest) with
        | some (body, after) =>
            .text run.reverse :: .tag slashes body :: piecesWithin fuel [] 0 after
        | none => piecesWithin fuel (c :: (List.replicate slashes '\\' ++ run)) 0 rest

/-- The pieces of a text. -/
def pieces (cs : List Char) : List Piece := piecesWithin (cs.length + 1) [] 0 cs

/-- A tag between its brackets. -/
def bracketed (body : List Char) : List Char := '[' :: (body ++ [']'])

/-- A piece whose tag has lost its power. -/
def Piece.escaped : Piece → List Char
  | text cs => cs
  | tag n body => List.replicate (2 * n + 1) '\\' ++ bracketed body

/-- A single backslash at the end is doubled, so that it cannot act on what follows. -/
def closeEnd (cs : List Char) : List Char :=
  match cs.reverse with
  | ['\\'] => cs ++ ['\\']
  | '\\' :: c :: _ => if c = '\\' then cs else cs ++ ['\\']
  | _ => cs

/-- A text in which nothing counts as a tag. -/
def escape (s : String) : String :=
  String.ofList (closeEnd ((pieces s.toList).flatMap Piece.escaped))

/-- Drops the backslash in front of a bracket that starts no tag. -/
def dropBracketEscapes : List Char → List Char
  | '\\' :: '[' :: rest => '[' :: dropBracketEscapes rest
  | c :: rest => c :: dropBracketEscapes rest
  | [] => []

/-- What a piece shows: half of the backslashes, and the tag if it has lost its power.  Names of
pictures do not reach across pieces. -/
def Piece.shown : Piece → List Char
  | text cs => Emoji.replace (dropBracketEscapes cs)
  | tag n body =>
      List.replicate (n / 2) '\\' ++ (if n % 2 = 1 then Emoji.replace (bracketed body) else [])

/-- What markup shows when styles are left out. -/
def plain (s : String) : List Char :=
  Cells.sanitize ((pieces s.toList).flatMap Piece.shown)

/-- The width of the console in cells. -/
def consoleWidth : Nat := 2000

/-- What markup shows on the console, if its lines can be cut to the width. -/
def printed? (s : String) : Option String := do
  let lines ← Cells.wrap? .natural consoleWidth .fold (plain s)
  return String.join (lines.map (fun l => String.ofList l ++ "\n"))

end CodeMetrics.Markup
