import CodeMetrics.Proofs.OrderedTable
import CodeMetrics.Proofs.Session.Reading

/-!
# Grammars made ready by requests

A session keeps the grammars that it has made ready, and requests for trees are
what makes them so.  A request is refused by its language alone, whatever was
requested before, and a refusal leaves the session as it was.

* **one request** — it is answered exactly if its language has a grammar
  (`Run.requestTree_of_supported`, `Run.requestTree_of_unsupported`), and adds the
  language to the session and to the log if it was not ready
  (`Run.grammars_after_requestTree`, `Run.events_after_requestTree`);
* **requests in a row** — `Run.serve`: what is ready, and what was reported, are
  the languages of the requests that have a grammar, each at its first request
  (`Run.grammars_of_requests`).
-/

namespace CodeMetrics

namespace Language

theorem mem_supported_iff {name : String} : name ∈ supported ↔ ∃ l : Language, l.name = name := by
  constructor
  · intro h
    obtain ⟨l, -, hname⟩ := List.mem_map.mp h
    exact ⟨l, hname⟩
  · rintro ⟨l, rfl⟩
    refine List.mem_map_of_mem ?_
    cases l <;> decide

theorem ofName?_of_not_mem_supported {name : String} (h : name ∉ supported) :
    ofName? name = none := by
  unfold ofName?
  rw [List.find?_eq_none]
  intro l _ hname
  exact h (mem_supported_iff.mpr ⟨l, beq_iff_eq.mp hname⟩)

end Language

namespace Run

/-! ## One request -/

/-- The refusal of a language without a grammar. -/
def noGrammar (language : String) : Trouble :=
  .reported (.unsupportedLanguage language Language.supported none)

/-- The line that tells that a grammar was made ready. -/
def readyLine (language : String) : LogLine where
  level := .debug
  channel := "js_complexity.scanning.treesitter_parser"
  message := s!"Initialised tree-sitter grammar: {language}"

section

variable {language : String} (source : String) (s : Session)

theorem requestTree_of_unsupported (h : language ∉ Language.supported) :
    requestTree language source s = .error (noGrammar language) s := by
  have hprepare : prepare language s = .error (noGrammar language) s := by
    rw [prepare, Language.ofName?_of_not_mem_supported h]
    rfl
  rw [requestTree, bind_of_error hprepare]

theorem requestTree_of_supported (h : language ∈ Language.supported) :
    requestTree language source s =
      .ok (nextTree s) ((s.prepare language).request language source).2 := by
  obtain ⟨l, rfl⟩ := Language.mem_supported_iff.mp h
  exact requestTree_eq l source s

/-- A request is refused for its language alone. -/
theorem result_requestTree_eq_error_iff {e : Trouble} :
    result (requestTree language source) s = .error e ↔
      language ∉ Language.supported ∧ e = noGrammar language := by
  by_cases h : language ∈ Language.supported
  · rw [result_of_ok (requestTree_of_supported source s h)]
    simp [h]
  · rw [result_of_error (requestTree_of_unsupported source s h), Except.error.injEq]
    simp [h, eq_comm]

theorem after_requestTree_of_unsupported (h : language ∉ Language.supported) :
    after (requestTree language source) s = s :=
  after_of_error (requestTree_of_unsupported source s h)

/-- A request makes the grammar of its language ready. -/
theorem grammars_after_requestTree :
    (after (requestTree language source) s).grammars =
      if language ∈ Language.supported ∧ language ∉ s.grammars then s.grammars ++ [language]
      else s.grammars := by
  by_cases h : language ∈ Language.supported
  · rw [after_of_ok (requestTree_of_supported source s h)]
    show (s.prepare language).grammars = _
    by_cases hready : language ∈ s.grammars
    · simp [Session.prepare, hready]
    · simp [Session.prepare, Session.report, h, hready]
  · rw [after_requestTree_of_unsupported source s h, if_neg fun hnew => h hnew.1]

/-- A request reports its grammar if it was not ready, and nothing else. -/
theorem events_after_requestTree :
    (after (requestTree language source) s).events =
      s.events ++ if language ∈ Language.supported ∧ language ∉ s.grammars then
        [.grammarReady language] else [] := by
  by_cases h : language ∈ Language.supported
  · rw [after_of_ok (requestTree_of_supported source s h)]
    show (s.prepare language).events = _
    by_cases hready : language ∈ s.grammars
    · simp [Session.prepare, hready]
    · simp [Session.prepare, Session.report, h, hready]
  · rw [after_requestTree_of_unsupported source s h, if_neg fun hnew => h hnew.1, List.append_nil]

/-- What is ready is used as it stands. -/
theorem prepare_of_ready (h : language ∈ Language.supported) (hready : language ∈ s.grammars) :
    prepare language s = .ok () s := by
  obtain ⟨l, rfl⟩ := Language.mem_supported_iff.mp h
  have hsame : s.prepare l.name = s := by
    unfold Session.prepare
    rw [if_pos (List.contains_iff_mem.mpr hready)]
  rw [prepare, Language.ofName?_name]
  show EStateM.Result.ok () (s.prepare l.name) = _
  rw [hsame]

end

/-! ## Requests in a row -/

/-- The session after requests made one after the other, each with its language and source.  A
refusal does not keep the next request from being made. -/
def serve (calls : List (String × String)) (s : Session) : Session :=
  calls.foldl (fun s call => after (requestTree call.1 call.2) s) s

/-- The languages with a grammar that requests ask for, in the order in which they first do. -/
def languagesUsed (calls : List (String × String)) : List String :=
  ((calls.map (·.1)).filter (· ∈ Language.supported)).eraseDups

theorem serve_append_singleton (calls : List (String × String)) (call : String × String)
    (s : Session) :
    serve (calls ++ [call]) s = after (requestTree call.1 call.2) (serve calls s) := by
  rw [serve, List.foldl_append]
  rfl

theorem mem_languagesUsed {calls : List (String × String)} {language : String} :
    language ∈ languagesUsed calls ↔
      language ∈ calls.map (·.1) ∧ language ∈ Language.supported := by
  rw [languagesUsed, List.mem_eraseDups, List.mem_filter, decide_eq_true_iff]

/-- One more request adds its language if it has a grammar and was not asked for before. -/
theorem languagesUsed_append_singleton (calls : List (String × String)) (call : String × String) :
    languagesUsed (calls ++ [call]) =
      if call.1 ∈ Language.supported ∧ call.1 ∉ languagesUsed calls then
        languagesUsed calls ++ [call.1]
      else languagesUsed calls := by
  unfold languagesUsed
  rw [List.map_append, List.filter_append]
  by_cases h : call.1 ∈ Language.supported
  · have hcall : ([call].map (·.1)).filter (fun name => name ∈ Language.supported) = [call.1] := by
      simp [h]
    rw [hcall, OrderedTable.eraseDups_append_singleton]
    simp only [h, List.mem_eraseDups, true_and, ite_not]
  · have hcall : ([call].map (·.1)).filter (fun name => name ∈ Language.supported) = [] := by
      simp [h]
    rw [hcall, List.append_nil, if_neg fun hnew => h hnew.1]

section

variable (s : Session) (calls : List (String × String))

/-- Where no grammar was ready, those are ready that were asked for. -/
theorem grammars_serve :
    (serve calls { s with grammars := [] }).grammars = languagesUsed calls := by
  induction calls using List.reverseRecOn with
  | nil => rfl
  | append_singleton calls call ih =>
    rw [serve_append_singleton, grammars_after_requestTree, ih, languagesUsed_append_singleton]

/-- Each of them was reported. -/
theorem events_serve :
    (serve calls { s with grammars := [] }).events =
      s.events ++ (languagesUsed calls).map .grammarReady := by
  induction calls using List.reverseRecOn with
  | nil => exact (List.append_nil _).symm
  | append_singleton calls call ih =>
    rw [serve_append_singleton, events_after_requestTree, grammars_serve, ih,
      languagesUsed_append_singleton]
    split
    · rw [List.map_append, List.append_assoc]
      rfl
    · rw [List.append_nil]

end

/-- Requests are made in a session in which no grammar is ready.  Whatever they were, the next one
is refused just if its language has no grammar, and then nothing has changed; else it is answered
with the next tree, and what was ready before is used as it stands.  What is ready after them are
the languages asked for that have a grammar, each once and in the order of their first requests.
Each of them was reported once, by its first request. -/
theorem grammars_of_requests (s : Session) (calls : List (String × String)) :
    let now := serve calls { s with grammars := [] }
    (∀ language source,
      let outcome := result (requestTree language source) now
      let next := after (requestTree language source) now
      (∀ e, outcome = .error e ↔ language ∉ Language.supported ∧
        e = .reported (.unsupportedLanguage language Language.supported none)) ∧
      (language ∉ Language.supported → next = now) ∧
      (language ∈ Language.supported → outcome = .ok (nextTree now)) ∧
      (language ∈ now.grammars → prepare language now = .ok () now) ∧
      next.events.map Event.line = now.events.map Event.line ++
        if language ∈ Language.supported ∧ language ∉ calls.map (·.1) then [readyLine language]
        else []) ∧
    now.grammars = ((calls.map (·.1)).filter (· ∈ Language.supported)).eraseDups ∧
    now.grammars.Nodup ∧
    now.events.map Event.line = s.events.map Event.line ++ now.grammars.map readyLine := by
  intro now
  have hgrammars : now.grammars = languagesUsed calls := grammars_serve s calls
  refine ⟨?_, hgrammars, ?_, ?_⟩
  · intro language source outcome next
    have hnew : (language ∈ Language.supported ∧ language ∉ now.grammars) ↔
        (language ∈ Language.supported ∧ language ∉ calls.map (·.1)) := by
      rw [hgrammars, mem_languagesUsed]
      tauto
    refine ⟨fun e => result_requestTree_eq_error_iff source now,
      after_requestTree_of_unsupported source now,
      fun h => result_of_ok (requestTree_of_supported source now h), ?_, ?_⟩
    · intro hready
      have hsupported : language ∈ Language.supported :=
        (mem_languagesUsed.mp (hgrammars ▸ hready)).2
      exact prepare_of_ready now hsupported hready
    · show (after (requestTree language source) now).events.map Event.line = _
      rw [events_after_requestTree, List.map_append]
      simp only [hnew]
      split <;> rfl
  · rw [hgrammars]
    exact OrderedTable.nodup_eraseDups _
  · have hevents : now.events = s.events ++ (languagesUsed calls).map .grammarReady :=
      events_serve s calls
    rw [hevents, hgrammars, List.map_append, List.map_map]
    rfl

/-- A language asked for again is not reported again, and one without a grammar is refused both
times. -/
theorem grammars_of_requests_twoLanguages :
    let now := serve [("tsx", ""), ("ruby", ""), ("tsx", "f()"), ("javascript", "")] {}
    now.grammars = ["tsx", "javascript"] ∧
    now.events.map Event.line = [readyLine "tsx", readyLine "javascript"] ∧
    result (requestTree "ruby" "") now =
      .error (.reported (.unsupportedLanguage "ruby" Language.supported none)) ∧
    after (requestTree "ruby" "") now = now ∧
    result (requestTree "tsx" "") now = .ok emptyProgram ∧
    prepare "tsx" now = .ok () now := by
  intro now
  obtain ⟨hnext, hgrammars, -, hlines⟩ :=
    grammars_of_requests {} [("tsx", ""), ("ruby", ""), ("tsx", "f()"), ("javascript", "")]
  have hready : now.grammars = ["tsx", "javascript"] := hgrammars.trans (by decide)
  refine ⟨hready, ?_, ?_, ?_, ?_, ?_⟩
  · rw [hlines, hready]
    rfl
  · exact ((hnext "ruby" "").1 _).mpr ⟨by decide, rfl⟩
  · exact (hnext "ruby" "").2.1 (by decide)
  · exact (hnext "tsx" "").2.2.1 (by decide)
  · exact (hnext "tsx" "").2.2.2.1 (by rw [hready]; decide)

end Run

end CodeMetrics
