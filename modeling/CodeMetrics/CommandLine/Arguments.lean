import CodeMetrics.CommandLine.Command
import CodeMetrics.Number.Numeral

/-!
# The words of a command line

Options and files may come in any order.  A long option takes its value after
an equals sign or as the next word, short options can share a dash, and a
double dash ends the options.

* `Switch` — the options, with `Switch.ofLong?` and `Switch.ofShort?` for their spellings;
* `Arguments` — what a command line asks for;
* `Arguments.parse` — the arguments of a list of words;
* `Numeral.readCount?` — a count in ASCII digits, which may end in a point and zeros;
* `Arguments.reading` — what the words of a command line mean.
-/

namespace CodeMetrics

/-- An option of the command. -/
inductive Switch where
  | format
  | failAbove
  | config
  | tolerant (on : Bool)
  | verbose
  | quiet
  | version
  | help
deriving Repr, DecidableEq, Inhabited

namespace Switch

/-- Whether an option is followed by a value. -/
def takesValue : Switch → Bool
  | format | failAbove | config => true
  | _ => false

/-- The option with a long spelling. -/
def ofLong? : String → Option Switch
  | "--format" => some format
  | "--fail-above" => some failAbove
  | "--config" => some config
  | "--tolerant" => some (tolerant true)
  | "--strict" => some (tolerant false)
  | "--verbose" => some verbose
  | "--quiet" => some quiet
  | "--version" => some version
  | "--help" => some help
  | _ => none

/-- The option with a short spelling. -/
def ofShort? : Char → Option Switch
  | 'f' => some format
  | 'c' => some config
  | 'v' => some verbose
  | 'q' => some quiet
  | _ => none

end Switch

/-- What a command line asks for.  Of an option that is given more than once the last counts. -/
structure Arguments where
  files : List String := []
  format? : Option String := none
  tolerant? : Option Bool := none
  failAbove? : Option String := none
  config? : Option String := none
  verbose : Bool := false
  quiet : Bool := false
  /-- The first of the options that show something about the command and do nothing else. -/
  notice? : Option Switch := none
deriving Repr, DecidableEq, Inhabited

namespace Arguments

/-- The arguments with one more file. -/
def addFile (a : Arguments) (file : String) : Arguments := { a with files := a.files ++ [file] }

/-- The arguments with one more option; `value` is looked at only if the option takes one. -/
def set (a : Arguments) (s : Switch) (value : String) : Arguments :=
  match s with
  | .format => { a with format? := some value }
  | .failAbove => { a with failAbove? := some value }
  | .config => { a with config? := some value }
  | .tolerant on => { a with tolerant? := some on }
  | .verbose => { a with verbose := true }
  | .quiet => { a with quiet := true }
  | .version => { a with notice? := a.notice? <|> some .version }
  | .help => { a with notice? := a.notice? <|> some .help }

/-- Splits a word at its first equals sign. -/
def splitValue (word : String) : String × Option String :=
  let cs := word.toList
  match cs.dropWhile (· ≠ '=') with
  | _ :: value => (String.ofList (cs.takeWhile (· ≠ '=')), some (String.ofList value))
  | [] => (word, none)

/-- Reads short options that share a dash.  What follows an option that takes a value is its value;
an option at the end is handed back to get its value from the next word. -/
def cluster (a : Arguments) : List Char → Option (Arguments × Option Switch)
  | [] => some (a, none)
  | c :: rest =>
      match Switch.ofShort? c with
      | none => none
      | some s =>
          if !s.takesValue then cluster (a.set s "") rest
          else if rest.isEmpty then some (a, some s)
          else some (a.set s (String.ofList rest), none)

/-- What one word that starts with a dash asks for: arguments, and possibly an option that takes its
value from the next word. -/
def readSwitch (a : Arguments) (word : String) : Option (Arguments × Option Switch) :=
  let (name, value?) := splitValue word
  match Switch.ofLong? name with
  | some s =>
      match s.takesValue, value? with
      | true, some v => some (a.set s v, none)
      | true, none => some (a, some s)
      | false, some _ => none
      | false, none => some (a.set s "", none)
  | none => if word.startsWith "--" then none else a.cluster (word.toList.drop 1)

/-- Whether a word is an option rather than a file; a dash alone is a file. -/
def isSwitch (word : String) : Bool :=
  match word.toList with
  | '-' :: _ :: _ => true
  | _ => false

/-- Adds what a list of words asks for; there is no answer if they make no sense. -/
def parseFrom (a : Arguments) : List String → Option Arguments
  | [] => some a
  | word :: rest =>
      if word = "--" then some { a with files := a.files ++ rest }
      else if isSwitch word then
        match readSwitch a word, rest with
        | none, _ => none
        | some (a, none), rest => a.parseFrom rest
        | some (_, some _), [] => none
        | some (a, some s), value :: rest => (a.set s value).parseFrom rest
      else (a.addFile word).parseFrom rest

/-- The arguments of a list of words. -/
def parse (words : List String) : Option Arguments := ({} : Arguments).parseFrom words

end Arguments

/-! ## Values -/

namespace Numeral

/-- Drops the zeros and underscores in front of a number that starts with a digit.  The last zero
stays if nothing or a point follows it. -/
def dropZeros : List Char → Option (List Char)
  | '0' :: rest =>
      let passed (c : Char) : Bool := c = '0' || c = '_'
      let last := (rest.takeWhile passed).getLastD '0'
      match rest.dropWhile passed with
      | [] => some [last]
      | '.' :: fraction => some (last :: '.' :: fraction)
      | c :: more => if c.isDigit then some (c :: more) else none
  | c :: rest => if c.isDigit then some (c :: rest) else none
  | [] => none

/-- Drops a point with nothing but zeros behind it, of which there is one at least. -/
def dropZeroFraction (cs : List Char) : List Char :=
  match cs.dropWhile (· ≠ '.') with
  | '.' :: '0' :: zeros => if zeros.all (· = '0') then cs.takeWhile (· ≠ '.') else cs
  | _ => cs

/-- Drops single underscores between digits. -/
def dropUnderscores : List Char → Option (List Char)
  | [] => none
  | [c] => if c.isDigit then some [c] else none
  | c :: '_' :: rest => if c.isDigit then (dropUnderscores rest).map (c :: ·) else none
  | c :: rest => if c.isDigit then (dropUnderscores rest).map (c :: ·) else none

/-- Reads a count: blanks around, a plus sign, ASCII digits with single underscores between them,
and a point with zeros behind it. -/
def readCount? (s : String) : Option Nat := do
  let cs := Text.trimBlanks s.toList
  let cs ← dropZeros (if cs.head? = some '+' then cs.tail else cs)
  let ds ← dropUnderscores (dropZeroFraction cs)
  if maxDigits < ds.length then none else some (ofAscii ds)

end Numeral

namespace Arguments

/-- The complexity gate: a count of at least one. -/
def gate? (text : String) : Option Int :=
  match Numeral.readCount? text with
  | some n => if 1 ≤ n then some n else none
  | none => none

/-- The settings file: it must be there, be no directory, and be readable. -/
def configFile? (files : FileSystem) (text : String) : Option Path :=
  let p := Path.ofString text
  match files.look p with
  | .found (.regular _ (.ok _)) | .found (.special (.ok _)) => some p
  | _ => none

/-- A file to analyse.  It need not be there, but no path holds a null character. -/
def sourceFile? (text : String) : Option Path :=
  if text.toList.contains '\x00' then none else some (Path.ofString text)

/-- An optional text converted, if it can be. -/
def converted {α β : Type} (convert : α → Option β) : Option α → Option (Option β)
  | none => some none
  | some text => (convert text).map some

/-- The request that arguments make, if there are files and the values can be converted. -/
def request? (files : FileSystem) (a : Arguments) : Option Request := do
  let failAbove? ← converted gate? a.failAbove?
  let config? ← converted (configFile? files) a.config?
  let sources ← a.files.mapM sourceFile?
  if sources.isEmpty then none
  else
    some {
      files := sources
      format? := a.format?
      tolerant? := a.tolerant?
      failAbove?, config?
      verbose := a.verbose
      quiet := a.quiet }

/-- The outcome of a command line that makes no sense. -/
def usageError : CommandOutcome := { exitCode := 2 }

/-- What words mean.  Words that make no sense are refused first; an option that only shows
something comes before any look at values and files. -/
def reading (files : FileSystem) (words : List String) : Reading :=
  match parse words with
  | none => .answered usageError
  | some a =>
      match a.notice? with
      | some .version => .version
      | some _ => .answered { exitCode := 0 }
      | none => (request? files a).elim (.answered usageError) .request

end Arguments

end CodeMetrics
