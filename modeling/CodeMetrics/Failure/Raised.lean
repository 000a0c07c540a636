import CodeMetrics.Failure

/-!
# Failures from arguments

A failure can be raised by its kind and arguments of any sort.  The arguments
are counted, and a few of them are looked into when the failure is shown.

* `RaiseFault` — what can go wrong on the way;
* `Raised` — a failure whose parts are values of any sort;
* `Raised.ofArguments` — the failure of a kind with given arguments;
* `Raised.text` — the failure as it is shown.
-/

namespace CodeMetrics

/-- Why arguments make no failure, or one that cannot be shown. -/
inductive RaiseFault where
  | missingArguments (call : String) (names : List String)
  /-- More arguments than a call takes; the failure itself counts as one. -/
  | tooManyArguments (call : String) (least most given : Nat)
  /-- A message of this sort without details cannot be shown. -/
  | messageNotText (sort : String)
  /-- Details of this sort have no entries. -/
  | detailsNotTable (sort : String)
  /-- Languages that are no list. -/
  | notJoinable
  /-- A language of this sort in a list. -/
  | itemNotText (index : Nat) (sort : String)
deriving Repr, DecidableEq, Inhabited

/-- The wording of a fault. -/
def RaiseFault.message : RaiseFault → String
  | missingArguments call names => Text.missingArguments call names
  | tooManyArguments call least most given =>
      let range := if least = most then s!"{most}" else s!"from {least} to {most}"
      s!"{call}() takes {range} positional arguments but {given} were given"
  | messageNotText sort => s!"__str__ returned non-string (type {sort})"
  | detailsNotTable sort => s!"'{sort}' object has no attribute 'items'"
  | notJoinable => "can only join an iterable"
  | itemNotText index sort => s!"sequence item {index}: expected str instance, {sort} found"

/-- A failure whose parts are values of any sort. -/
structure Raised where
  kind : FailureKind
  message : Value
  details : List (String × Value) := []
  attributes : List (String × Value) := []

namespace FailureKind

/-- The name of the call that raises a failure of a kind. -/
def call : FailureKind → String
  | any | analysis | configuration => any.name ++ ".__init__"
  | k => k.name ++ ".__init__"

/-- The arguments that a failure of a kind must have. -/
def required : FailureKind → List String
  | any | analysis | configuration => ["message"]
  | fileAccess => ["filepath", "reason"]
  | parsing => ["filepath", "language", "reason"]
  | unsupportedLanguage => ["language", "supported_languages"]
  | invalidSetting => ["key", "value", "reason"]

/-- The arguments that a failure of a kind can have besides. -/
def optional : FailureKind → List String
  | any | analysis | configuration => ["details"]
  | unsupportedLanguage => ["filepath"]
  | _ => []

/-- Refuses a wrong number of arguments. -/
def checkCount (k : FailureKind) (count : Nat) : Except RaiseFault Unit :=
  let least := k.required.length
  let most := least + k.optional.length
  if count < least then .error (.missingArguments k.call (k.required.drop count))
  else if most < count then .error (.tooManyArguments k.call (least + 1) (most + 1) (count + 1))
  else .ok ()

end FailureKind

namespace Raised

/-- The entries of the details; what counts as false stands for none. -/
def entries (details : Value) : Except RaiseFault (List (String × Value)) :=
  match details with
  | .table es => .ok es
  | v => if v.truthy then .error (.detailsNotTable v.sort) else .ok []

/-- The texts of a list; `index` is the position of its first item. -/
def texts (index : Nat) : List Value → Except RaiseFault (List String)
  | [] => .ok []
  | .text s :: rest => (texts (index + 1) rest).map (s :: ·)
  | v :: _ => .error (.itemNotText index v.sort)

/-- The texts that languages of any sort consist of: the items of a list, the characters of a text,
the keys of a table. -/
def languages : Value → Except RaiseFault (List String)
  | .array items => texts 0 items
  | .text s => .ok (s.toList.map Char.toString)
  | .table es => .ok (es.map (·.1))
  | _ => .error .notJoinable

/-- The failure of a kind with given arguments. -/
def ofArguments (k : FailureKind) (args : List Value) : Except RaiseFault Raised := do
  k.checkCount args.length
  let argument (i : Nat) : Value := args[i]?.getD .null
  let (a, b, c) := (argument 0, argument 1, argument 2)
  match k with
  | .any | .analysis | .configuration =>
      return { kind := k, message := a, details := ← entries b }
  | .fileAccess =>
      return {
        kind := k
        message := .text (Failure.fileAccess a.plain b.plain).message
        details := [("filepath", .text a.plain), ("reason", b)]
        attributes := [("filepath", a), ("reason", b)] }
  | .parsing =>
      return {
        kind := k
        message := .text (Failure.parsing a.plain b.plain c.plain).message
        details := [("filepath", .text a.plain), ("language", b), ("reason", c)]
        attributes := [("filepath", a), ("language", b), ("reason", c)] }
  | .unsupportedLanguage =>
      let supported := ", ".intercalate (← languages b)
      let path? := if c.isNull then none else some c.plain
      return {
        kind := k
        message := .text (Failure.unsupportedLanguage a.plain [] path?).message
        details := [("language", a), ("supported", .text supported)]
          ++ (path?.map (fun p => ("filepath", .text p))).toList
        attributes := [("language", a), ("supported_languages", b), ("filepath", c)] }
  | .invalidSetting =>
      return {
        kind := k
        message := .text (Failure.invalidSetting a.plain b c.plain).message
        details := [("key", a), ("value", .text b.plain), ("reason", c)]
        attributes := [("key", a), ("value", b), ("reason", c)] }

/-- The failure as it is shown: a message without details must be a text. -/
def text (r : Raised) : Except RaiseFault String :=
  match r.message, r.details with
  | .text s, [] => .ok s
  | v, [] => .error (.messageNotText v.sort)
  | v, ds => .ok (Failure.withDetails v.plain (ds.map (fun d => (d.1, d.2.plain))))

end Raised

end CodeMetrics
