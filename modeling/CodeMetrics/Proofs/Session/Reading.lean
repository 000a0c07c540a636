import CodeMetrics.Proofs.Session.Opening
import CodeMetrics.Proofs.Text.Utf8

/-!
# Files that are read

Whether a file has a text is a matter of its size and of its bytes, in this
order.  Apart from line ends, the text is what the bytes encode, and it is what
a tree is asked for.

* `FileSystem.readSource_eq_ok_iff`, `FileSystem.readSource_eq_error_iff` — the
  text of a file, and what stands against it;
* `Run.result`, `Run.after` — what a computation comes to, and the session that
  it leaves;
* **requests** — judging a tree asks for no other, so an analysis makes one
  request at the most (`Run.requests_analyzeFile`);
* `Run.readSource_of_file` — reading and asking taken together.
-/

namespace CodeMetrics

namespace FileSystem

variable {fs : FileSystem} {p : Path} {size : Nat} {content : Except OsError ByteArray}
  {bytes : ByteArray} {limit : Int}

/-- The size of a file is looked at before its content. -/
theorem readSource_of_large (hfile : fs.look p = .found (.regular size content))
    (hlarge : limit < size) : fs.readSource p limit = .error (.tooLarge size limit) := by
  unfold readSource
  rw [hfile]
  exact if_pos hlarge

theorem readSource_of_unreadable {e : OsError}
    (hfile : fs.look p = .found (.regular size (.error e))) (hfits : size ≤ limit) :
    fs.readSource p limit = .error (.unreadable e) := by
  unfold readSource
  rw [hfile]
  exact if_neg (Int.not_lt.mpr hfits)

theorem readSource_of_undecoded (hfile : fs.look p = .found (.regular size (.ok bytes)))
    (hfits : size ≤ limit) {found : Utf8.Fault} (hdecode : Utf8.decode bytes = .error found) :
    fs.readSource p limit = .error (.notUtf8 found.reason) := by
  unfold readSource
  rw [hfile]
  dsimp only
  rw [if_neg (Int.not_lt.mpr hfits), hdecode]

theorem readSource_of_decoded (hfile : fs.look p = .found (.regular size (.ok bytes)))
    (hfits : size ≤ limit) {encoded : String} (hdecode : Utf8.decode bytes = .ok encoded) :
    fs.readSource p limit = .ok (String.ofList (Text.lineFeeds encoded.toList), size) := by
  unfold readSource
  rw [hfile]
  dsimp only
  rw [if_neg (Int.not_lt.mpr hfits), hdecode, ← Text.unifyLineEnds_eq]

/-- A file has a text just if it is within the limit and its bytes encode one, whose line ends are
replaced. -/
theorem readSource_eq_ok_iff (hfile : fs.look p = .found (.file bytes)) {text : String}
    {size : Nat} :
    fs.readSource p limit = .ok (text, size) ↔
      bytes.size ≤ limit ∧ size = bytes.size ∧ ∃ encoded : String, encoded.toUTF8 = bytes ∧
        text = String.ofList (Text.lineFeeds encoded.toList) := by
  constructor
  · intro h
    rcases Int.lt_or_le limit bytes.size with hlarge | hfits
    · rw [readSource_of_large hfile hlarge] at h
      cases h
    · cases hdecode : Utf8.decode bytes with
      | error found =>
        rw [readSource_of_undecoded hfile hfits hdecode] at h
        cases h
      | ok encoded =>
        rw [readSource_of_decoded hfile hfits hdecode] at h
        cases h
        exact ⟨hfits, rfl, encoded, Utf8.decode_eq_ok_iff.mp hdecode, rfl⟩
  · rintro ⟨hfits, rfl, encoded, hencoded, rfl⟩
    exact readSource_of_decoded hfile hfits (Utf8.decode_eq_ok_iff.mpr hencoded)

/-- A file has no text just if it is too large or, within the limit, encodes none. -/
theorem readSource_eq_error_iff (hfile : fs.look p = .found (.file bytes)) {fault : ReadFault} :
    fs.readSource p limit = .error fault ↔
      limit < bytes.size ∧ fault = .tooLarge bytes.size limit ∨
      bytes.size ≤ limit ∧ (∀ encoded : String, encoded.toUTF8 ≠ bytes) ∧
        ∃ found, Utf8.firstFault? bytes = some found ∧ fault = .notUtf8 found.reason := by
  constructor
  · intro h
    rcases Int.lt_or_le limit bytes.size with hlarge | hfits
    · rw [readSource_of_large hfile hlarge] at h
      cases h
      exact .inl ⟨hlarge, rfl⟩
    · cases hdecode : Utf8.decode bytes with
      | error found =>
        rw [readSource_of_undecoded hfile hfits hdecode] at h
        cases h
        obtain ⟨hnone, hfound⟩ := Utf8.decode_eq_error_iff.mp hdecode
        exact .inr ⟨hfits, hnone, found, hfound, rfl⟩
      | ok encoded =>
        rw [readSource_of_decoded hfile hfits hdecode] at h
        cases h
  · rintro (⟨hlarge, rfl⟩ | ⟨hfits, hnone, found, hfound, rfl⟩)
    · exact readSource_of_large hfile hlarge
    · exact readSource_of_undecoded hfile hfits (Utf8.decode_eq_error_iff.mpr ⟨hnone, hfound⟩)

end FileSystem

namespace Run

variable {α β : Type}

/-! ## What a computation comes to -/

/-- What a computation comes to, without the session that it leaves. -/
def result (run : Run α) (s : Session) : Except Trouble α :=
  match run s with
  | .ok a _ => .ok a
  | .error e _ => .error e

/-- The session that a computation leaves, whatever it comes to. -/
def after (run : Run α) (s : Session) : Session :=
  match run s with
  | .ok _ s' => s'
  | .error _ s' => s'

section

variable {run : Run α} {s s' : Session}

theorem result_of_ok {a : α} (h : run s = .ok a s') : result run s = .ok a := by
  rw [result, h]

theorem result_of_error {e : Trouble} (h : run s = .error e s') : result run s = .error e := by
  rw [result, h]

theorem after_of_ok {a : α} (h : run s = .ok a s') : after run s = s' := by
  rw [after, h]

theorem after_of_error {e : Trouble} (h : run s = .error e s') : after run s = s' := by
  rw [after, h]

theorem result_eq_ok_iff {a : α} : result run s = .ok a ↔ ∃ s', run s = .ok a s' := by
  unfold result
  cases run s <;> simp

end

variable {fs : FileSystem} {settings : Settings} {p : Path} {s : Session}

theorem result_readSource_eq_ok_iff {limit : Int} {text : String} :
    result (readSource fs p limit) s = .ok text ↔
      ∃ size, fs.readSource p limit = .ok (text, size) := by
  cases hread : fs.readSource p limit with
  | error fault => simp [result_of_error (readSource_of_error hread s)]
  | ok read => simp [result_of_ok (readSource_of_ok hread s), Prod.ext_iff]

theorem result_readSource_eq_error_iff {limit : Int} {e : Trouble} :
    result (readSource fs p limit) s = .error e ↔
      ∃ fault, fs.readSource p limit = .error fault ∧ e = fault.trouble p := by
  cases hread : fs.readSource p limit with
  | error fault => simp [result_of_error (readSource_of_error hread s), eq_comm]
  | ok read => simp [result_of_ok (readSource_of_ok hread s)]

/-! ## Requests -/

/-- Judging a tree asks for no other. -/
theorem requests_judge (path language : String) (tree : Node) :
    (after (judge settings path language tree) s).requests = s.requests := by
  cases hdamage : tree.damagedLine? with
  | none => rw [after_of_ok ((judge_sound hdamage _ _ _ _).trans (analyzeTree_eq ..))]; rfl
  | some line =>
    cases htolerant : settings.isTolerant with
    | false => rw [after_of_error (judge_refused htolerant hdamage _ _ _)]
    | true =>
      rw [after_of_ok ((judge_recovered htolerant hdamage _ _ _).trans (analyzeTree_eq ..))]
      rfl

theorem requests_afterOpening (p : Path) (size : Nat) (language source : String) (s : Session) :
    (afterOpening p size language source s).requests = s.requests ++ [(language, source)] :=
  congrArg (· ++ [(language, source)])
    ((s.report (.sourceRead p.text size)).requests_prepare language)

/-- Where a file is read, its analysis judges the next tree, in the session after the opening. -/
theorem analyzeFile_of_read {l : Language} {limit : Int} {source : String} {size : Nat}
    (hlanguage : Language.ofPath? p = some l) (hlimit : settings.maxFileBytes = .ok limit)
    (hread : fs.readSource p limit = .ok (source, size)) (s : Session) :
    analyzeFile fs settings p s =
      judge settings p.text l.name (nextTree s) (afterOpening p size l.name source s) := by
  have hopen : openSource fs settings p s =
      .ok (l.name, nextTree s) (afterOpening p size l.name source s) := by
    rw [openSource_eq hlanguage hlimit, hread]
  rw [analyzeFile_eq, bind_of_ok hopen]

/-- The analysis of a source asks for its tree, and for no other. -/
theorem requests_analyzeFile {l : Language} {limit : Int} {source : String} {size : Nat}
    (hlanguage : Language.ofPath? p = some l) (hlimit : settings.maxFileBytes = .ok limit)
    (hread : fs.readSource p limit = .ok (source, size)) :
    (after (analyzeFile fs settings p) s).requests = s.requests ++ [(l.name, source)] := by
  have hafter : after (analyzeFile fs settings p) s =
      after (judge settings p.text l.name (nextTree s))
        (afterOpening p size l.name source s) := by
    rw [after, analyzeFile_of_read hlanguage hlimit hread]
    rfl
  rw [hafter, requests_judge, requests_afterOpening]

/-- A file is read just if it is within the limit and its bytes encode a text.  What is read is that
text with its line ends replaced, and what an analysis asks a tree for is what is read: the bytes as
they are, unless there is a carriage return among them.  Otherwise the file is refused, for its size
first. -/
theorem readSource_of_file {bytes : ByteArray} (hfile : fs.look p = .found (.file bytes))
    (limit : Int) (s : Session) :
    (∀ text, result (readSource fs p limit) s = .ok text ↔
      bytes.size ≤ limit ∧ ∃ encoded : String, encoded.toUTF8 = bytes ∧
        text = String.ofList (Text.lineFeeds encoded.toList)) ∧
    (∀ e, result (readSource fs p limit) s = .error e ↔
      limit < bytes.size ∧ e = .reported (.fileAccess p.text
        s!"file is {bytes.size} bytes, limit is {limit}") ∨
      bytes.size ≤ limit ∧ (∀ encoded : String, encoded.toUTF8 ≠ bytes) ∧
        ∃ found, Utf8.firstFault? bytes = some found ∧ e = .reported (.fileAccess p.text
          s!"not valid UTF-8: {found.reason.text}")) ∧
    ∀ settings l (encoded : String), Language.ofPath? p = some l →
      settings.maxFileBytes = .ok limit →
      bytes.size ≤ limit → encoded.toUTF8 = bytes →
      let source := String.ofList (Text.lineFeeds encoded.toList)
      (after (analyzeFile fs settings p) s).requests = s.requests ++ [(l.name, source)] ∧
        ('\r' ∉ encoded.toList → source.toUTF8 = bytes) := by
  refine ⟨?_, ?_, ?_⟩
  · intro text
    rw [result_readSource_eq_ok_iff]
    constructor
    · rintro ⟨size, hread⟩
      obtain ⟨hfits, -, hencoded⟩ := (FileSystem.readSource_eq_ok_iff hfile).mp hread
      exact ⟨hfits, hencoded⟩
    · rintro ⟨hfits, hencoded⟩
      exact ⟨bytes.size, (FileSystem.readSource_eq_ok_iff hfile).mpr ⟨hfits, rfl, hencoded⟩⟩
  · intro e
    rw [result_readSource_eq_error_iff]
    constructor
    · rintro ⟨fault, hread, rfl⟩
      rcases (FileSystem.readSource_eq_error_iff hfile).mp hread with
        ⟨hlarge, rfl⟩ | ⟨hfits, hnone, found, hfound, rfl⟩
      · exact .inl ⟨hlarge, rfl⟩
      · exact .inr ⟨hfits, hnone, found, hfound, rfl⟩
    · rintro (⟨hlarge, rfl⟩ | ⟨hfits, hnone, found, hfound, rfl⟩)
      · exact ⟨_, (FileSystem.readSource_eq_error_iff hfile).mpr (.inl ⟨hlarge, rfl⟩), rfl⟩
      · exact ⟨_, (FileSystem.readSource_eq_error_iff hfile).mpr
          (.inr ⟨hfits, hnone, found, hfound, rfl⟩), rfl⟩
  · intro settings l encoded hlanguage hlimit hfits hencoded source
    have hread : fs.readSource p limit = .ok (source, bytes.size) :=
      (FileSystem.readSource_eq_ok_iff hfile).mpr ⟨hfits, rfl, encoded, hencoded, rfl⟩
    refine ⟨requests_analyzeFile hlanguage hlimit hread, ?_⟩
    intro hreturn
    show (String.ofList (Text.lineFeeds encoded.toList)).toUTF8 = bytes
    rw [Text.lineFeeds_eq_self hreturn, String.ofList_toList, hencoded]

/-- A source with a byte order mark and line ends of three sorts. -/
def mixedLines : String := "\uFEFFf()\r\ng()\rh()\n"

/-- A machine on which this source stands wherever one looks. -/
def onlyMixedLines : FileSystem where
  look _ := .found (.file mixedLines.toUTF8)

/-- The mark is kept and the line ends are replaced.  A limit of one byte less refuses the file, and
settings with a larger one have its text parsed. -/
theorem readSource_of_file_mixedLines :
    let p : Path := ⟨0, ["a.js"]⟩
    onlyMixedLines.look p = .found (.file mixedLines.toUTF8) ∧
    result (readSource onlyMixedLines p 16) {} = .ok "\uFEFFf()\ng()\nh()\n" ∧
    result (readSource onlyMixedLines p 15) {} =
      .error (.reported (.fileAccess "a.js" "file is 16 bytes, limit is 15")) ∧
    (after (analyzeFile onlyMixedLines {} p) {}).requests =
      [("javascript", "\uFEFFf()\ng()\nh()\n")] := by
  intro p
  have hfile : onlyMixedLines.look p = .found (.file mixedLines.toUTF8) := rfl
  have hsize : mixedLines.toUTF8.size = 16 := by decide +kernel
  have hlines : String.ofList (Text.lineFeeds mixedLines.toList) = "\uFEFFf()\ng()\nh()\n" := by
    decide +kernel
  have hlanguage : Language.ofPath? p = some .javascript := ofPath?_script 0
  refine ⟨hfile, ?_, ?_, ?_⟩
  · refine ((readSource_of_file hfile 16 {}).1 _).mpr ⟨?_, mixedLines, rfl, hlines.symm⟩
    rw [hsize]
    decide
  · refine ((readSource_of_file hfile 15 {}).2.1 _).mpr (.inl ⟨?_, ?_⟩)
    · rw [hsize]
      decide
    · rw [hsize]
      rfl
  · have hlimit : ({} : Settings).maxFileBytes = .ok 10485760 := rfl
    have hfits : mixedLines.toUTF8.size ≤ (10485760 : Int) := by
      rw [hsize]
      decide
    have hasked := (readSource_of_file hfile 10485760 {}).2.2 {} .javascript mixedLines hlanguage
      hlimit hfits rfl
    rw [hasked.1, hlines]
    rfl

end Run

end CodeMetrics
