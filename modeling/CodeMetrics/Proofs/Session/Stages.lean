import CodeMetrics.Proofs.Failure
import CodeMetrics.Proofs.Files.Path
import CodeMetrics.Proofs.Session.Reading
import CodeMetrics.Proofs.Session.Usability

/-!
# Which trouble is told of a file

The analysis of a file goes through stages, and every stage can find fault with
the file, whatever the others find.  The trouble that is told is that of the
first stage which finds fault.  All but the last come before the tree is asked
for.

* `FileStage`, `Run.complaint?` — the stages, and the fault that each of them
  finds by itself;
* **before the tree** — a complaint ends the analysis and leaves the session as
  it was (`Run.analyzeFile_of_early_complaint`); without one there are a language
  and a text (`Run.exists_source_of_no_early_complaint`);
* **the tree** — `Run.error?_result_judge` says when it is refused;
* `Run.analyzeFile_first_complaint` — the analysis fails with the first
  complaint and succeeds without one.
-/

namespace CodeMetrics

/-! ## Stages -/

/-- The endings that tell a language, in lower case. -/
def Language.endings : List String :=
  [".js", ".mjs", ".cjs", ".jsx", ".ts", ".mts", ".cts", ".tsx"]

theorem Language.ofSuffix?_eq_none_iff {ending : String} :
    ofSuffix? ending = none ↔ ending ∉ endings := by
  unfold ofSuffix? endings
  split <;> simp_all

/-- The stages of the analysis of a file. -/
inductive FileStage where
  | language
  /-- Whether the system tells what stands at the path. -/
  | access
  | presence
  /-- Whether what stands at the path is a regular file. -/
  | sort
  | size
  /-- Whether the system gives the bytes of the file. -/
  | reading
  | encoding
  /-- Whether the tree is damaged where that is not tolerated. -/
  | damage
deriving Repr, DecidableEq

namespace FileStage

/-- The stages that look at what stands at the path, in order. -/
def ofPlace : List FileStage := [access, presence, sort]

/-- The stages that look at a regular file, in order. -/
def ofContent : List FileStage := [size, reading, encoding]

/-- The stages before a tree is asked for, in order. -/
def early : List FileStage := language :: (ofPlace ++ ofContent)

/-- All stages in order. -/
def all : List FileStage := early ++ [damage]

end FileStage

namespace Run

/-- The fault that a stage finds with the file at a path by itself, if the limit is a number of
bytes and the tree is the one that its text has. -/
def complaint? (fs : FileSystem) (settings : Settings) (limit : Int) (p : Path) (tree : Node) :
    FileStage → Option Trouble
  | .language =>
      if p.suffix.map Char.toLower ∈ Language.endings then none
      else some (.reported (.unsupportedLanguage (if p.suffix.isEmpty then p.name else p.suffix)
        Language.supported (some p.text)))
  | .access =>
      match fs.look p with
      | .refused e => some (.uncaught (.os e))
      | _ => none
  | .presence =>
      match fs.look p with
      | .missing => some (.reported (.fileAccess p.text "file does not exist"))
      | _ => none
  | .sort =>
      match fs.look p with
      | .found (.directory _) | .found (.special _) =>
          some (.reported (.fileAccess p.text "not a regular file"))
      | _ => none
  | .size =>
      match fs.look p with
      | .found (.regular size _) =>
          if limit < size then
            some (.reported (.fileAccess p.text s!"file is {size} bytes, limit is {limit}"))
          else none
      | _ => none
  | .reading =>
      match fs.look p with
      | .found (.regular _ (.error e)) =>
          some (.reported (.fileAccess p.text (if e.reason.isEmpty then e.text else e.reason)))
      | _ => none
  | .encoding =>
      match fs.look p with
      | .found (.regular _ (.ok bytes)) => (Utf8.firstFault? bytes).map fun fault =>
          .reported (.fileAccess p.text s!"not valid UTF-8: {fault.reason.text}")
      | _ => none
  | .damage => (Language.ofPath? p).bind fun l =>
      if settings.isTolerant then none
      else tree.damagedLine?.map fun line =>
        .reported (.parsing p.text l.name s!"syntax error near line {line}")

variable {fs : FileSystem} {settings : Settings} {limit : Int} {p : Path} {tree : Node}
  {l : Language} {e : Trouble} {s : Session}

/-! ## Before the tree -/

theorem complaint?_language_of_unknown (h : Language.ofPath? p = none) :
    complaint? fs settings limit p tree .language = some (.reported (.unsupportedLanguage
      (if p.suffix.isEmpty then p.name else p.suffix) Language.supported (some p.text))) :=
  if_neg (Language.ofSuffix?_eq_none_iff.mp h)

theorem complaint?_language_of_known (h : Language.ofPath? p = some l) :
    complaint? fs settings limit p tree .language = none := by
  apply if_pos
  by_contra hunknown
  have hnone : Language.ofPath? p = none := Language.ofSuffix?_eq_none_iff.mpr hunknown
  rw [h] at hnone
  cases hnone

/-- A file that can be read has a fault of encoding just if its bytes encode no text. -/
theorem complaint?_encoding_eq_none_iff {size : Nat} {bytes : ByteArray}
    (hfile : fs.look p = .found (.regular size (.ok bytes))) :
    complaint? fs settings limit p tree .encoding = none ↔
      ∃ encoded : String, encoded.toUTF8 = bytes := by
  rw [complaint?, hfile, Option.map_eq_none_iff, Utf8.firstFault?_eq_none_iff]

/-- The stages that look at a regular file find what stands against reading it. -/
theorem findSome?_ofContent {size : Nat} {content : Except OsError ByteArray}
    (hfile : fs.look p = .found (.regular size content)) :
    FileStage.ofContent.findSome? (complaint? fs settings limit p tree) =
      (error? (fs.readSource p limit)).map (·.trouble p) := by
  rw [FileStage.ofContent, List.findSome?_cons]
  rcases Int.lt_or_le limit size with hlarge | hfits
  · have hsize : complaint? fs settings limit p tree .size =
        some ((ReadFault.tooLarge size limit).trouble p) := by
      rw [complaint?, hfile]
      exact if_pos hlarge
    rw [hsize, FileSystem.readSource_of_large hfile hlarge]
    rfl
  · have hsize : complaint? fs settings limit p tree .size = none := by
      rw [complaint?, hfile]
      exact if_neg (Int.not_lt.mpr hfits)
    rw [hsize]
    dsimp only
    rw [List.findSome?_cons, List.findSome?_singleton, complaint?, complaint?, hfile]
    cases content with
    | error e =>
      rw [FileSystem.readSource_of_unreadable hfile hfits]
      rfl
    | ok bytes =>
      dsimp only
      cases hdecode : Utf8.decode bytes with
      | error found =>
        obtain ⟨-, hfound⟩ := Utf8.decode_eq_error_iff.mp hdecode
        rw [FileSystem.readSource_of_undecoded hfile hfits hdecode, hfound]
        rfl
      | ok encoded =>
        have hsound : Utf8.firstFault? bytes = none :=
          Utf8.firstFault?_eq_none_iff.mpr ⟨encoded, Utf8.decode_eq_ok_iff.mp hdecode⟩
        rw [FileSystem.readSource_of_decoded hfile hfits hdecode, hsound]
        rfl

/-- What is no regular file is not read, for what the stages find at its path. -/
theorem findSome?_ofPlace (h : ∀ size content, fs.look p ≠ .found (.regular size content))
    (settings : Settings) (limit : Int) (tree : Node) :
    ∃ fault, fs.readSource p limit = .error fault ∧
      FileStage.ofPlace.findSome? (complaint? fs settings limit p tree) =
        some (fault.trouble p) := by
  simp only [FileStage.ofPlace, List.findSome?_cons, complaint?, FileSystem.readSource]
  cases hlook : fs.look p with
  | missing => exact ⟨.missing, rfl, rfl⟩
  | refused e => exact ⟨.refused e, rfl, rfl⟩
  | found entry =>
    cases entry with
    | directory _ => exact ⟨.notRegular, rfl, rfl⟩
    | special _ => exact ⟨.notRegular, rfl, rfl⟩
    | regular size content => exact absurd hlook (h size content)

theorem findSome?_ofPlace_of_file {size : Nat} {content : Except OsError ByteArray}
    (hfile : fs.look p = .found (.regular size content)) :
    FileStage.ofPlace.findSome? (complaint? fs settings limit p tree) = none := by
  simp only [FileStage.ofPlace, List.findSome?_cons, complaint?, hfile]
  rfl

theorem findSome?_early_of_known (h : Language.ofPath? p = some l) :
    FileStage.early.findSome? (complaint? fs settings limit p tree) =
      (error? (fs.readSource p limit)).map (·.trouble p) := by
  rw [FileStage.early, List.findSome?_cons, complaint?_language_of_known h]
  dsimp only
  rw [List.findSome?_append]
  by_cases hfile : ∃ size content, fs.look p = .found (.regular size content)
  · obtain ⟨size, content, hfile⟩ := hfile
    rw [findSome?_ofPlace_of_file hfile, Option.none_or, findSome?_ofContent hfile]
  · obtain ⟨fault, hread, hplace⟩ :=
      findSome?_ofPlace (fun size content h => hfile ⟨size, content, h⟩) settings limit tree
    rw [hplace, hread]
    rfl

/-- A complaint that comes before the tree ends the analysis, and nothing has happened in the
session. -/
theorem analyzeFile_of_early_complaint (hlimit : settings.maxFileBytes = .ok limit)
    (h : FileStage.early.findSome? (complaint? fs settings limit p tree) = some e) (s : Session) :
    analyzeFile fs settings p s = .error e s := by
  rw [analyzeFile_eq]
  apply bind_of_error
  cases hlanguage : Language.ofPath? p with
  | none =>
    rw [FileStage.early, List.findSome?_cons, complaint?_language_of_unknown hlanguage] at h
    cases h
    exact openSource_of_unknown hlanguage
  | some l =>
    rw [findSome?_early_of_known hlanguage] at h
    obtain ⟨fault, hfault, rfl⟩ := Option.map_eq_some_iff.mp h
    rw [openSource_eq hlanguage hlimit, error?_eq_some_iff.mp hfault]

/-- Where no stage before the tree complains, there are a language and a text. -/
theorem exists_source_of_no_early_complaint
    (h : FileStage.early.findSome? (complaint? fs settings limit p tree) = none) :
    ∃ l source size, Language.ofPath? p = some l ∧
      fs.readSource p limit = .ok (source, size) := by
  cases hlanguage : Language.ofPath? p with
  | none =>
    rw [FileStage.early, List.findSome?_cons, complaint?_language_of_unknown hlanguage] at h
    cases h
  | some l =>
    rw [findSome?_early_of_known hlanguage, Option.map_eq_none_iff] at h
    obtain ⟨⟨source, size⟩, hread⟩ := error?_eq_none_iff.mp h
    exact ⟨l, source, size, rfl, hread⟩

/-! ## The tree -/

/-- A tree is refused just if it is damaged and damage is not tolerated. -/
theorem complaint?_damage_eq_none_iff (hlanguage : Language.ofPath? p = some l) :
    complaint? fs settings limit p tree .damage = none ↔
      settings.isTolerant = true ∨ tree.label.damaged = false := by
  unfold complaint? Node.damagedLine?
  cases settings.isTolerant <;> cases tree.label.damaged <;> simp [hlanguage]

/-- Judging a tree fails with the complaint about it. -/
theorem error?_result_judge (hp : p.Normal) (hlanguage : Language.ofPath? p = some l)
    (fs : FileSystem) (limit : Int) :
    error? (result (judge settings p.text l.name tree) s) =
      complaint? fs settings limit p tree .damage := by
  rw [complaint?, hlanguage, Option.bind_some]
  cases hline : tree.damagedLine? with
  | none =>
    rw [result_of_ok ((judge_sound hline _ _ _ _).trans (analyzeTree_eq ..))]
    simp
  | some line =>
    cases htolerant : settings.isTolerant with
    | false =>
      rw [result_of_error (judge_refused htolerant hline _ _ _), Path.ofString_text hp]
      rfl
    | true =>
      rw [result_of_ok ((judge_recovered htolerant hline _ _ _).trans (analyzeTree_eq ..))]
      rfl

/-- Where a tree is asked for, the analysis is what judging it comes to. -/
theorem result_analyzeFile_of_read {source : String} {size : Nat}
    (hlanguage : Language.ofPath? p = some l) (hlimit : settings.maxFileBytes = .ok limit)
    (hread : fs.readSource p limit = .ok (source, size)) :
    result (analyzeFile fs settings p) s =
      result (judge settings p.text l.name (nextTree s)) (afterOpening p size l.name source s) := by
  rw [result, analyzeFile_of_read hlanguage hlimit hread]
  rfl

/-! ## All stages -/

/-- The analysis of a file fails with the first complaint. -/
theorem error?_result_analyzeFile (hp : p.Normal) (hlimit : settings.maxFileBytes = .ok limit) :
    error? (result (analyzeFile fs settings p) s) =
      FileStage.all.findSome? (complaint? fs settings limit p (nextTree s)) := by
  rw [FileStage.all, List.findSome?_append]
  cases hearly : FileStage.early.findSome? (complaint? fs settings limit p (nextTree s)) with
  | some e =>
    rw [result_of_error (analyzeFile_of_early_complaint hlimit hearly s)]
    rfl
  | none =>
    obtain ⟨l, source, size, hlanguage, hread⟩ := exists_source_of_no_early_complaint hearly
    rw [result_analyzeFile_of_read hlanguage hlimit hread,
      error?_result_judge hp hlanguage fs limit, Option.none_or, List.findSome?_singleton]

/-- Without a complaint, the analysis of a file is that of its tree. -/
theorem result_analyzeFile_of_no_complaint (hp : p.Normal)
    (hlimit : settings.maxFileBytes = .ok limit)
    (h : FileStage.all.findSome? (complaint? fs settings limit p (nextTree s)) = none) :
    ∃ l, Language.ofPath? p = some l ∧ result (analyzeFile fs settings p) s =
      .ok ((Cursor.root (nextTree s)).analyze p.text l.name settings.importCallee).1 := by
  obtain ⟨a, ha⟩ := error?_eq_none_iff.mp ((error?_result_analyzeFile hp hlimit).trans h)
  rw [FileStage.all, List.findSome?_append, Option.or_eq_none_iff] at h
  obtain ⟨l, source, size, hlanguage, hread⟩ := exists_source_of_no_early_complaint h.1
  rw [result_analyzeFile_of_read hlanguage hlimit hread] at ha ⊢
  obtain ⟨s', hjudge⟩ := result_eq_ok_iff.mp ha
  rw [ha, (judge_ok hjudge).1]
  exact ⟨l, hlanguage, rfl⟩

/-- The complaints of a stage name the file. -/
theorem complaint?_ne_unnamed (stage : FileStage) (language : String) (supported : List String) :
    complaint? fs settings limit p tree stage ≠
      some (.reported (.unsupportedLanguage language supported none)) := by
  intro h
  cases stage with
  | language =>
    rw [complaint?] at h
    split at h <;> cases h
  | access | presence | sort | reading =>
    rw [complaint?] at h
    split at h <;> cases h
  | size =>
    rw [complaint?] at h
    split at h
    · split at h <;> cases h
    · cases h
  | encoding =>
    rw [complaint?] at h
    split at h
    · obtain ⟨_, _, he⟩ := Option.map_eq_some_iff.mp h
      cases he
    · cases h
  | damage =>
    obtain ⟨_, _, h⟩ := Option.bind_eq_some_iff.mp h
    split at h
    · cases h
    · obtain ⟨_, _, he⟩ := Option.map_eq_some_iff.mp h
      cases he

/-- The analysis of a file fails with the complaint of the first stage that has one, and without a
complaint it is that of the next tree.  If a stage before the tree complains, nothing happens in the
session; otherwise one request is made, for the text of the file in its language.  Bytes are at
fault just if they encode no text, and a tree just if it is damaged and damage is not tolerated.
That a language has no grammar is never told without the file. -/
theorem analyzeFile_first_complaint (hlimit : settings.maxFileBytes = .ok limit) (fs : FileSystem)
    (path : String) (s : Session) :
    let p := Path.ofString path
    let tree := nextTree s
    let fault? := complaint? fs settings limit p tree
    let analysis := analyzeFile fs settings p
    (∀ e, result analysis s = .error e ↔ FileStage.all.findSome? fault? = some e) ∧
    (FileStage.all.findSome? fault? = none → ∃ l, Language.ofPath? p = some l ∧
      result analysis s =
        .ok ((Cursor.root tree).analyze p.text l.name settings.importCallee).1) ∧
    (∀ e, FileStage.early.findSome? fault? = some e → after analysis s = s) ∧
    (FileStage.early.findSome? fault? = none → ∃ l source size,
      Language.ofPath? p = some l ∧ fs.readSource p limit = .ok (source, size) ∧
      (after analysis s).requests = s.requests ++ [(l.name, source)]) ∧
    (∀ size bytes, fs.look p = .found (.regular size (.ok bytes)) →
      (fault? .encoding = none ↔ ∃ encoded : String, encoded.toUTF8 = bytes)) ∧
    (∀ l, Language.ofPath? p = some l →
      (fault? .damage = none ↔ settings.isTolerant = true ∨ tree.label.damaged = false)) ∧
    ∀ language supported, result analysis s ≠
      .error (.reported (.unsupportedLanguage language supported none)) := by
  intro p tree fault? analysis
  have hp : p.Normal := Path.normal_ofString path
  have hfails : error? (result analysis s) = FileStage.all.findSome? fault? :=
    error?_result_analyzeFile hp hlimit
  refine ⟨?_, ?_, ?_, ?_, ?_, ?_, ?_⟩
  · intro e
    rw [← hfails, error?_eq_some_iff]
  · exact result_analyzeFile_of_no_complaint hp hlimit
  · intro e hearly
    exact after_of_error (analyzeFile_of_early_complaint hlimit hearly s)
  · intro hearly
    obtain ⟨l, source, size, hlanguage, hread⟩ := exists_source_of_no_early_complaint hearly
    exact ⟨l, source, size, hlanguage, hread, requests_analyzeFile hlanguage hlimit hread⟩
  · exact fun _ _ => complaint?_encoding_eq_none_iff
  · exact fun l => complaint?_damage_eq_none_iff
  · intro language supported hresult
    rw [← error?_eq_some_iff, hfails] at hresult
    obtain ⟨stage, -, hstage⟩ := List.exists_of_findSome?_eq_some hresult
    exact complaint?_ne_unnamed stage language supported hstage

/-- A source whose bytes the system refuses to give. -/
def lockedSource : FileSystem where
  look p := .found (.regular 3 (.error (.noAccess p.text)))

/-- A directory whose ending tells no language is refused for its language, and no tree is asked
for.  Neither is one for a source that may not be read.  A damaged source is refused for its damage,
behind which no other stage comes. -/
theorem analyzeFile_first_complaint_oneSource :
    let notes := Path.ofString "lib//notes.txt/"
    let source := Path.ofString "./a.js"
    let s : Session := { supply := [damagedTree] }
    ({} : Settings).maxFileBytes = .ok 10485760 ∧
    result (analyzeFile oneSource {} notes) s = .error (.reported (.unsupportedLanguage ".txt"
      ["javascript", "typescript", "tsx"] (some "lib/notes.txt"))) ∧
    (after (analyzeFile oneSource {} notes) s).requests = [] ∧
    result (analyzeFile lockedSource {} source) s =
      .error (.reported (.fileAccess "a.js" "Permission denied")) ∧
    (after (analyzeFile lockedSource {} source) s).requests = [] ∧
    result (analyzeFile oneSource {} source) s =
      .error (.reported (.parsing "a.js" "javascript" "syntax error near line 3")) := by
  intro notes source s
  have hlimit : ({} : Settings).maxFileBytes = .ok 10485760 := rfl
  obtain ⟨hnotes, -, hunchanged, -⟩ :=
    analyzeFile_first_complaint hlimit oneSource "lib//notes.txt/" s
  obtain ⟨hlocked, -, hlockedAfter, -⟩ :=
    analyzeFile_first_complaint hlimit lockedSource "./a.js" s
  obtain ⟨hsource, -⟩ := analyzeFile_first_complaint hlimit oneSource "./a.js" s
  have hpath : source = ⟨0, ["a.js"]⟩ := by decide
  have hlanguage : Language.ofPath? source = some .javascript := by
    rw [hpath]
    exact ofPath?_script 0
  have hearly : FileStage.early.findSome? (complaint? oneSource {} 10485760 notes (nextTree s)) =
      some (.reported (.unsupportedLanguage ".txt" Language.supported (some "lib/notes.txt"))) := by
    have hsuffix : notes.suffix = ".txt" := by decide
    have hunknown : Language.ofPath? notes = none := by
      rw [Language.ofPath?, hsuffix]
      cbv
    have htext : notes.text = "lib/notes.txt" := by decide
    rw [FileStage.early, List.findSome?_cons, complaint?_language_of_unknown hunknown, hsuffix,
      htext]
    rfl
  have hreading : FileStage.early.findSome?
        (complaint? lockedSource {} 10485760 source (nextTree s)) =
      some (.reported (.fileAccess "a.js" "Permission denied")) := by
    rw [findSome?_early_of_known hlanguage, hpath]
    rfl
  have hdamage : FileStage.all.findSome? (complaint? oneSource {} 10485760 source (nextTree s)) =
      some (.reported (.parsing "a.js" "javascript" "syntax error near line 3")) := by
    have hread : oneSource.readSource source 10485760 = .ok ("f()", 3) := by
      rw [hpath]
      rfl
    have hline : damagedTree.damagedLine? = some 3 := by cbv
    have hnext : nextTree s = damagedTree := rfl
    rw [FileStage.all, List.findSome?_append, findSome?_early_of_known hlanguage, hread,
      List.findSome?_singleton, complaint?, hlanguage, hpath, hnext, hline]
    rfl
  refine ⟨hlimit, (hnotes _).mpr ?_, ?_, (hlocked _).mpr ?_, ?_, (hsource _).mpr hdamage⟩
  · rw [FileStage.all, List.findSome?_append, hearly]
    rfl
  · rw [hunchanged _ hearly]
  · rw [FileStage.all, List.findSome?_append, hreading]
    rfl
  · rw [hlockedAfter _ hreading]

/-- A name that is one byte too long, with an ending that tells a language. -/
def longScript : String := String.ofList (List.replicate 253 'n' ++ ['.', 'j', 's'])

/-- Nothing stands at a name that is too long, and yet the trouble of such a file is none that is
reported. -/
theorem analyzeFile_longScript :
    let fs := Disk.view { cwd := [] }
    let p := Path.ofString longScript
    ({} : Settings).maxFileBytes = .ok 10485760 ∧
    Language.ofPath? p = some .javascript ∧
    (∀ entry, fs.look p ≠ .found entry) ∧
    analyzeFile fs {} p {} = .error (.uncaught (.os (.nameTooLong longScript))) {} := by
  intro fs p
  have hlimit : ({} : Settings).maxFileBytes = .ok 10485760 := rfl
  have hchars : longScript.toList = List.replicate 253 'n' ++ ['.', 'j', 's'] :=
    String.toList_ofList
  have hpath : p = ⟨0, [longScript]⟩ := by
    apply Path.ofString_of_name
    · rw [hchars]
      rfl
    · rw [hchars, List.mem_append, not_or]
      exact ⟨fun h => absurd (List.eq_of_mem_replicate h) (by decide), by decide⟩
  have hlanguage : Language.ofPath? p = some .javascript := by
    have hsuffix : (Path.mk 0 [longScript]).suffix = ".js" :=
      Path.suffixOf_ofList (List.cons_ne_nil 'n' (List.replicate 252 'n')) (by decide) (by decide)
    rw [Language.ofPath?, hpath, hsuffix]
    cbv
  have hsize : longScript.utf8ByteSize = 256 := utf8ByteSize_name 253 ['.', 'j', 's']
  have hlook : fs.look p = .refused (.nameTooLong longScript) := by
    rw [hpath]
    exact look_of_name_too_long (null_not_mem_name 253 (by decide)) (by rw [hsize]; decide)
      (by rw [hsize]; decide)
  refine ⟨hlimit, hlanguage, ?_, ?_⟩
  · intro entry hentry
    rw [hlook] at hentry
    cases hentry
  · rw [analyzeFile_refused hlook hlanguage hlimit]
    rfl

end Run

end CodeMetrics
