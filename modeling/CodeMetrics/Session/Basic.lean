import CodeMetrics.Failure
import CodeMetrics.Language
import CodeMetrics.Log
import CodeMetrics.Tree.Node

/-!
# Sessions

A session is what a run carries from file to file: the grammars it has made
ready, the trees that are still to come, the requests for trees it has made,
and what it has reported.  Parsing itself is done elsewhere: each request is
answered with the next tree of a supply.

* `Session` — the state of a run;
* `Run` — computations that change the session and can end in trouble; the session survives that;
* `Run.requestTree` — asks for the tree of a source.
-/

namespace CodeMetrics

/-- The state of a run. -/
structure Session where
  /-- The languages whose grammars are ready, in order of first use. -/
  grammars : List String := []
  /-- The trees that answer the coming requests. -/
  supply : List Node := []
  /-- The requests made, each with its language and source. -/
  requests : List (String × String) := []
  /-- What has been reported. -/
  events : List Event := []

/-- A computation within a session. -/
abbrev Run := EStateM Trouble Session

/-- The tree of an empty source, which answers requests beyond the supply. -/
def emptyProgram : Node := .mk 0 { type := "program", row := 0 } []

namespace Session

/-- The session after a report. -/
def report (s : Session) (e : Event) : Session := { s with events := s.events ++ [e] }

/-- The session with the grammar of a language ready; this is reported at its first use. -/
def prepare (s : Session) (language : String) : Session :=
  if s.grammars.contains language then s
  else { s with grammars := s.grammars ++ [language] }.report (.grammarReady language)

/-- The answer to a request, and the session after it. -/
def request (s : Session) (language source : String) : Node × Session :=
  (s.supply.head?.getD emptyProgram,
    { s with supply := s.supply.tail, requests := s.requests ++ [(language, source)] })

end Session

namespace Run

/-- Ends the run with a failure. -/
def fail {α : Type} (f : Failure) : Run α := throw (.reported f)

/-- Reports an event. -/
def report (e : Event) : Run Unit := modify (·.report e)

/-- Makes the grammar of a language ready, if there is one. -/
def prepare (language : String) : Run Unit :=
  match Language.ofName? language with
  | none => fail (.unsupportedLanguage language Language.supported none)
  | some _ => modify (·.prepare language)

/-- Asks for the tree of a source in a language. -/
def requestTree (language source : String) : Run Node := do
  prepare language
  modifyGet (·.request language source)

/-- Runs a computation with no grammar ready, as a run of its own would. -/
def afresh {α : Type} (run : Run α) : Run α := do
  modify ({ · with grammars := [] })
  run

end Run

end CodeMetrics
