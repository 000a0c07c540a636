import CodeMetrics.Files.OsError
import CodeMetrics.Number.Numeral
import CodeMetrics.Text.Utf8
import CodeMetrics.Value.Basic

/-!
# Failures

What can go wrong in a run.  A failure is reported to the user with a message
and details; a few conditions are not caught on the way and end the run as
they are.

* `FailureKind` — the kinds of failures, some of which are more general than others;
* `Failure` — the causes that are reported;
* `Uncaught` — the conditions that are not;
* `Trouble` — either.
-/

namespace CodeMetrics

/-- The kinds of failures. -/
inductive FailureKind where
  | any
  | analysis
  | configuration
  | fileAccess
  | parsing
  | unsupportedLanguage
  | invalidSetting
deriving Repr, DecidableEq, Inhabited

namespace FailureKind

/-- Every kind once. -/
def all : List FailureKind :=
  [any, analysis, configuration, fileAccess, parsing, unsupportedLanguage, invalidSetting]

/-- The name of a kind. -/
def name : FailureKind → String
  | any => "JsComplexityError"
  | analysis => "AnalysisError"
  | configuration => "ConfigurationError"
  | fileAccess => "FileAccessError"
  | parsing => "ParsingError"
  | unsupportedLanguage => "UnsupportedLanguageError"
  | invalidSetting => "InvalidConfigError"

/-- The kind with a given name. -/
def ofName? (s : String) : Option FailureKind := all.find? (fun k => k.name == s)

/-- A kind and the more general kinds that it belongs to. -/
def lineage : FailureKind → List FailureKind
  | any => [any]
  | analysis => [analysis, any]
  | configuration => [configuration, any]
  | fileAccess => [fileAccess, analysis, any]
  | parsing => [parsing, analysis, any]
  | unsupportedLanguage => [unsupportedLanguage, analysis, any]
  | invalidSetting => [invalidSetting, configuration, any]

end FailureKind

/-- A cause that is reported to the user. -/
inductive Failure where
  /-- The settings cannot be used. -/
  | configuration (message : String)
  /-- A file cannot be read. -/
  | fileAccess (path reason : String)
  /-- A file has syntax errors. -/
  | parsing (path language reason : String)
  /-- There is no grammar for a language, or for the ending of a file. -/
  | unsupportedLanguage (language : String) (supported : List String) (path? : Option String)
  /-- A setting has a value that it cannot have. -/
  | invalidSetting (key : String) (value : Value) (reason : String)
deriving Repr, Inhabited

namespace Failure

/-- The kind of a failure. -/
def kind : Failure → FailureKind
  | configuration _ => .configuration
  | fileAccess _ _ => .fileAccess
  | parsing _ _ _ => .parsing
  | unsupportedLanguage _ _ _ => .unsupportedLanguage
  | invalidSetting _ _ _ => .invalidSetting

/-- The message of a failure. -/
def message : Failure → String
  | configuration message => message
  | fileAccess path _ => s!"Cannot read file: {path}"
  | parsing path language _ => s!"Failed to parse {language} file: {path}"
  | unsupportedLanguage language _ none => s!"Unsupported language: {language}"
  | unsupportedLanguage language _ (some path) =>
      s!"Unsupported language for file {path}: {language}"
  | invalidSetting key value _ => s!"Invalid configuration for {key}: {value.plain}"

/-- The details of a failure in order. -/
def details : Failure → List (String × String)
  | configuration _ => []
  | fileAccess path reason => [("filepath", path), ("reason", reason)]
  | parsing path language reason =>
      [("filepath", path), ("language", language), ("reason", reason)]
  | unsupportedLanguage language supported path? =>
      [("language", language), ("supported", ", ".intercalate supported)]
        ++ (path?.map (fun p => ("filepath", p))).toList
  | invalidSetting key value reason =>
      [("key", key), ("value", value.plain), ("reason", reason)]

/-- A message with details behind it. -/
def withDetails (message : String) (details : List (String × String)) : String :=
  if details.isEmpty then message
  else message ++ " (" ++ ", ".intercalate (details.map (fun d => d.1 ++ "=" ++ d.2)) ++ ")"

/-- The message with the details behind it. -/
def text (f : Failure) : String := withDetails f.message f.details

end Failure

/-- A condition that no one catches on the way. -/
inductive Uncaught where
  /-- A value of this sort cannot be asked whether it is an identifier. -/
  | noIdentifierTest (sort : String)
  /-- A value of this sort cannot be compared with a number. -/
  | notComparable (operator sort : String)
  /-- A call with a keyword that it does not know. -/
  | unknownKeyword (call name : String)
  /-- A call with two values for one argument. -/
  | doubledArgument (call name : String)
  /-- A call with one keyword given twice. -/
  | doubledKeyword (call name : String)
  /-- A settings file is not UTF-8. -/
  | notUtf8 (fault : Utf8.Fault)
  /-- A settings file holds a whole number of too many digits. -/
  | numeralTooLong (digits : Nat)
  /-- A settings file holds values too deep inside one another. -/
  | tooDeep
  /-- A value that would have to be shown. -/
  | notShowable (fault : ShowFault)
  /-- A refusal of the operating system. -/
  | os (e : OsError)
  /-- A condition of a sort that a library has, with its wording. -/
  | foreign (sort message : String)
  /-- A size limit without end. -/
  | infiniteLimit
  /-- A size limit that is no number. -/
  | nanLimit
deriving Repr, DecidableEq, Inhabited

/-- The wording of a condition. -/
def Uncaught.message : Uncaught → String
  | noIdentifierTest sort => s!"'{sort}' object has no attribute 'isidentifier'"
  | notComparable operator sort =>
      s!"'{operator}' not supported between instances of '{sort}' and 'int'"
  | unknownKeyword call name => s!"{call}() got an unexpected keyword argument '{name}'"
  | doubledArgument call name => s!"{call}() got multiple values for argument '{name}'"
  | doubledKeyword call name => s!"{call}() got multiple values for keyword argument '{name}'"
  | notUtf8 fault => fault.message
  | numeralTooLong digits => (NumeralFault.tooLong digits).message
  | tooDeep => "maximum recursion depth exceeded"
  | notShowable fault => fault.message
  | os e => e.text
  | foreign _ message => message
  | infiniteLimit => "cannot convert float infinity to integer"
  | nanLimit => "cannot convert float NaN to integer"

/-- Anything that can end a run. -/
inductive Trouble where
  | reported (f : Failure)
  | uncaught (u : Uncaught)
deriving Repr, Inhabited

/-- The wording of a trouble. -/
def Trouble.text : Trouble → String
  | reported f => f.text
  | uncaught u => u.message

end CodeMetrics
