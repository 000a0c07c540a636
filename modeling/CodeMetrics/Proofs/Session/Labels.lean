import CodeMetrics.Proofs.Files.Path
import CodeMetrics.Proofs.Session.Reading
import CodeMetrics.Proofs.Session.Usability

/-!
# A file and its text

A file can be analysed where it stands, or its text can be analysed under a
label.  If the label is the written form of the path, both come to the same: the
label is read as the path again, so it tells the language that the path tells,
and of what is reported on the way an analysis uses nothing.

* `Run.Alike.result_eq`, `Run.Alike.requests_eq` — outcomes that are alike, in
  one session;
* `Run.analyzeSource_of_known`, `Run.analyzeSource_of_unknown` — a text whose
  label tells the language, or tells none;
* `Run.alike_analyzeFile_analyzeSource` — the file and its text;
* `Run.analyzeFile_eq_of_text` — the same for runs of their own.
-/

namespace CodeMetrics.Run

variable {α : Type}

/-! ## Outcomes in one session -/

theorem Alike.result_eq {run run' : Run α} {s : Session} (h : Alike s s (run s) (run' s)) :
    result run s = result run' s := by
  unfold result
  generalize run s = x at h ⊢
  generalize run' s = y at h ⊢
  cases h <;> rfl

theorem Alike.requests_eq {run run' : Run α} {s : Session} (h : Alike s s (run s) (run' s)) :
    (Run.after run s).requests = (Run.after run' s).requests := by
  have heq : ∀ {s' t' : Session}, Alongside s s s' t' → s'.requests = t'.requests := by
    intro s' t' halong
    obtain ⟨made, hs, ht⟩ := halong.requests
    rw [hs, ht]
  unfold Run.after
  generalize run s = x at h ⊢
  generalize run' s = y at h ⊢
  cases h with
  | ok halong => exact heq halong
  | error halong => exact heq halong

/-- A report comes along with no tree taken and no request made. -/
theorem alongside_report (s : Session) (e : Event) : Alongside s s (s.report e) s :=
  ⟨rfl, [], (List.append_nil _).symm, (List.append_nil _).symm⟩

/-! ## The label of a text -/

variable {fs : FileSystem} {settings : Settings} {p : Path} {source : String} {l : Language}

/-- The label of a text tells the language that the path tells. -/
theorem analyzeSource_of_known (hp : p.Normal) (hlanguage : Language.ofPath? p = some l) :
    analyzeSource settings source p.text none =
      analyzeSource settings source p.text (some l.name) := by
  unfold analyzeSource languageOf
  dsimp only
  rw [Path.ofString_text hp, hlanguage]

theorem analyzeSource_of_unknown (hp : p.Normal) (hlanguage : Language.ofPath? p = none)
    (s : Session) : analyzeSource settings source p.text none s =
      .error (.reported (.unsupportedLanguage (if p.suffix.isEmpty then p.name else p.suffix)
        Language.supported (some p.text))) s := by
  unfold analyzeSource languageOf
  dsimp only
  rw [Path.ofString_text hp, hlanguage]
  rfl

/-- A text whose label tells the language is not taken for anything else. -/
theorem analyzeSnippet_of_known (hp : p.Normal) (hlanguage : Language.ofPath? p = some l) :
    analyzeSnippet settings source p.text none =
      afresh (analyzeSource settings source p.text none) := by
  unfold analyzeSnippet
  rw [Path.ofString_text hp, hlanguage]

/-! ## The file -/

/-- Where a file is read, what is left to do is the analysis of its text. -/
theorem analyzeFile_eq_analyzeSource {limit : Int} {size : Nat}
    (hlanguage : Language.ofPath? p = some l) (hlimit : settings.maxFileBytes = .ok limit)
    (hread : fs.readSource p limit = .ok (source, size))
    (s : Session) : analyzeFile fs settings p s =
      analyzeSource settings source p.text (some l.name) (s.report (.sourceRead p.text size)) := by
  unfold analyzeFile languageOf
  rw [hlanguage, hlimit]
  exact bind_of_ok (readSource_of_ok hread s)

/-- A file and its text under the label of the file come to the same, with the same request. -/
theorem alike_analyzeFile_analyzeSource {limit : Int} {size : Nat} (hp : p.Normal)
    (hlimit : settings.maxFileBytes = .ok limit)
    (hread : fs.readSource p limit = .ok (source, size)) (s : Session) :
    Alike s s (analyzeFile fs settings p s) (analyzeSource settings source p.text none s) := by
  cases hlanguage : Language.ofPath? p with
  | none =>
    rw [analyzeSource_of_unknown hp hlanguage, analyzeFile_eq,
      bind_of_error (openSource_of_unknown hlanguage)]
    exact .error (.refl rfl)
  | some l =>
    -- the sessions differ by the report that the file was read
    let reported := s.report (.sourceRead p.text size)
    have halike : Alike reported s
        (analyzeSource settings source p.text (some l.name) reported)
        (analyzeSource settings source p.text (some l.name) s) :=
      bySupply_analyzeSource settings source p.text (some l.name) reported s rfl
    rw [analyzeFile_eq_analyzeSource hlanguage hlimit hread, analyzeSource_of_known hp hlanguage]
    exact halike.after (alongside_report s _)

/-- The written form of a path that was read is read as the same path and tells the same language.
So a file that can be read comes to the same as its text under that label, with the same requests:
in a session, and, where the label tells a language at all, in runs of their own. -/
theorem analyzeFile_eq_of_text {fs : FileSystem} {settings : Settings} {path source : String}
    {limit : Int} {size : Nat} (hlimit : settings.maxFileBytes = .ok limit)
    (hread : fs.readSource (Path.ofString path) limit = .ok (source, size)) (s : Session) :
    let p := Path.ofString path
    Path.ofString p.text = p ∧
    Language.ofPath? (Path.ofString p.text) = Language.ofPath? p ∧
    result (analyzeFile fs settings p) s = result (analyzeSource settings source p.text none) s ∧
    (after (analyzeFile fs settings p) s).requests =
      (after (analyzeSource settings source p.text none) s).requests ∧
    ∀ l, Language.ofPath? p = some l →
      result (afresh (analyzeFile fs settings p)) s =
        result (analyzeSnippet settings source p.text none) s ∧
      (after (afresh (analyzeFile fs settings p)) s).requests =
        (after (analyzeSnippet settings source p.text none) s).requests := by
  intro p
  have hp : p.Normal := Path.normal_ofString path
  have hagain : Path.ofString p.text = p := Path.ofString_text hp
  have halike := alike_analyzeFile_analyzeSource hp hlimit hread
  refine ⟨hagain, by rw [hagain], (halike s).result_eq, (halike s).requests_eq, ?_⟩
  intro l hlanguage
  rw [analyzeSnippet_of_known hp hlanguage]
  -- a run of its own starts without grammars, and is alike from there
  let fresh : Session := { s with grammars := [] }
  exact ⟨(halike fresh).result_eq, (halike fresh).requests_eq⟩

/-- Two slashes in front, dots and slashes at the end: the file is damaged, and its text under the
label without them is refused in the same words. -/
theorem analyzeFile_eq_of_text_oneSource :
    let p := Path.ofString "//.//a.js/./"
    let s : Session := { supply := [damagedTree] }
    ({} : Settings).maxFileBytes = .ok 10485760 ∧
    oneSource.readSource p 10485760 = .ok ("f()", 3) ∧
    p.text = "//a.js" ∧
    result (analyzeFile oneSource {} p) s = result (analyzeSource {} "f()" "//a.js" none) s ∧
    result (afresh (analyzeFile oneSource {} p)) s =
      result (analyzeSnippet {} "f()" "//a.js" none) s ∧
    (after (analyzeSnippet {} "f()" "//a.js" none) s).requests = [("javascript", "f()")] := by
  intro p s
  have hlimit : ({} : Settings).maxFileBytes = .ok 10485760 := rfl
  have hpath : p = ⟨2, ["a.js"]⟩ := by decide
  have hread : oneSource.readSource p 10485760 = .ok ("f()", 3) := by
    rw [hpath]
    rfl
  have hlanguage : Language.ofPath? p = some .javascript := by
    rw [hpath]
    exact ofPath?_script 2
  have htext : p.text = "//a.js" := by decide
  obtain ⟨-, -, hresult, -, hown⟩ := analyzeFile_eq_of_text hlimit hread s
  obtain ⟨hsnippet, hrequests⟩ := hown .javascript hlanguage
  rw [← htext]
  refine ⟨hlimit, hread, rfl, hresult, hsnippet, ?_⟩
  rw [← hrequests]
  exact requests_analyzeFile hlanguage hlimit hread

end CodeMetrics.Run
