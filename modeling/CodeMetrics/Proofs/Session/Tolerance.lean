import CodeMetrics.Proofs.Metrics.Functions
import CodeMetrics.Proofs.Session.Opening

/-!
# Damage tolerated and refused

Whether damage is tolerated matters for files that are damaged, and for nothing
else.  A strict and a tolerant run do the same up to the first damaged file.
There the strict run ends, and the tolerant one reports the damage and analyses
the tree.

* **one file** — both modes open a file alike (`Run.openFile_withTolerance`) and
  analyse a sound tree (`Run.analyzePath_of_sound`); on a damaged tree they part
  (`Run.analyzePath_strict_of_damaged`, `Run.analyzePath_tolerant_of_damaged`);
* **several files** — `Run.ComesToDamage` says which file is the first damaged
  one, `Run.InModes` what both modes come to (`Run.inModes_analyzePaths`), and
  `Run.analyzePaths_withTolerance` is what follows for either.
-/

namespace CodeMetrics

namespace Settings

/-- The settings with damage tolerated or not. -/
def withTolerance (settings : Settings) (on : Bool) : Settings :=
  { settings with tolerant := .bool on }

@[simp] theorem isTolerant_withTolerance (settings : Settings) (on : Bool) :
    (settings.withTolerance on).isTolerant = on := rfl

end Settings

theorem Node.damagedLine?_eq_none {tree : Node} (h : tree.label.damaged = false) :
    tree.damagedLine? = none := by
  unfold damagedLine?
  rw [h]
  rfl

theorem Node.exists_damagedLine? {tree : Node} (h : tree.label.damaged = true) :
    ∃ line, tree.damagedLine? = some line := by
  unfold damagedLine?
  rw [if_pos h]
  exact ⟨_, rfl⟩

/-- The failure of a file with a syntax error. -/
def syntaxError (p : Path) (language : String) (line : Nat) : Trouble :=
  .reported (.parsing (Path.ofString p.text).text language s!"syntax error near line {line}")

namespace Run

variable {fs : FileSystem} {settings : Settings}

/-! ## One file -/

/-- A file is opened in the same way whether or not damage is tolerated. -/
theorem openFile_withTolerance (fs : FileSystem) (settings : Settings) (on : Bool) (p : Path) :
    openFile fs (settings.withTolerance on) p = openFile fs settings p := rfl

/-- Both modes analyse a sound tree. -/
theorem analyzePath_of_sound {p : Path} {s s' : Session} {language : String} {tree : Node}
    (hopen : openFile fs settings p s = .ok (language, tree) s')
    (hsound : tree.label.damaged = false) (on : Bool) :
    analyzePath fs (settings.withTolerance on) p s =
      analyzeTree settings p.text language tree s' := by
  rw [← openFile_withTolerance fs settings on] at hopen
  rw [analyzePath_of_opened hopen, judge_sound (Node.damagedLine?_eq_none hsound)]
  rfl

theorem analyzePath_strict_of_damaged {p : Path} {s s' : Session} {language : String} {tree : Node}
    {line : Nat} (hopen : openFile fs settings p s = .ok (language, tree) s')
    (hline : tree.damagedLine? = some line) :
    analyzePath fs (settings.withTolerance false) p s =
      .error (syntaxError p language line) s' := by
  rw [← openFile_withTolerance fs settings false] at hopen
  rw [analyzePath_of_opened hopen, judge_refused (settings.isTolerant_withTolerance false) hline]
  rfl

theorem analyzePath_tolerant_of_damaged {p : Path} {s s' : Session} {language : String}
    {tree : Node} {line : Nat} (hopen : openFile fs settings p s = .ok (language, tree) s')
    (hline : tree.damagedLine? = some line) :
    analyzePath fs (settings.withTolerance true) p s =
      analyzeTree settings p.text language tree (s'.report (.recovered p.text line)) := by
  rw [← openFile_withTolerance fs settings true] at hopen
  rw [analyzePath_of_opened hopen, judge_recovered (settings.isTolerant_withTolerance true) hline]
  rfl

/-- Of a damaged file that is analysed all the same, the damage is all that is reported at the level
of a warning or above. -/
theorem warnings_of_recovered {p : Path} {s s' : Session} {language : String} {tree : Node}
    (hopen : openFile fs settings p s = .ok (language, tree) s') (line : Nat) :
    ∃ added, (afterAnalysis settings p.text language tree
        (s'.report (.recovered p.text line))).events = s.events ++ added ∧
      added.filter (fun e => LogSetup.admits .warning e.level) = [.recovered p.text line] := by
  obtain ⟨opening, hopening, hdebug⟩ := exists_events_of_opened hopen
  let a := ((Cursor.root tree).analyze p.text language settings.importCallee).1
  let scanned := ((Cursor.root tree).scan settings.importCallee).events
  let last : Event :=
    .analysed p.text a.functions.size a.file.packageComplexity a.file.strings
  refine ⟨opening ++ [.recovered p.text line] ++ scanned ++ [last], ?_, ?_⟩
  · show s'.events ++ _ ++ scanned ++ [last] = _
    rw [hopening]
    simp
  · have hquiet : ∀ events : List Event, (∀ e ∈ events, e.level = .debug) →
        events.filter (fun e => LogSetup.admits .warning e.level) = [] := by
      intro events hevents
      apply List.filter_eq_nil_iff.mpr
      intro e he
      rw [hevents e he]
      decide
    rw [List.filter_append, List.filter_append, List.filter_append, hquiet opening hdebug,
      hquiet scanned (Cursor.scan_events_level settings.importCallee _)]
    rfl

/-! ## Several files -/

/-- The first damaged file of a run: both modes come to it, and it is opened.  The indices are the
session at the start and the files, then the damaged file, its language and its tree, and the
session in which it has been opened. -/
inductive ComesToDamage (fs : FileSystem) (settings : Settings) :
    Session → List Path → Path → String → Node → Session → Prop
  | here {s s' : Session} {p : Path} {rest : List Path} {language : String} {tree : Node}
      (opened : openFile fs settings p s = .ok (language, tree) s')
      (damaged : tree.label.damaged = true) :
      ComesToDamage fs settings s (p :: rest) p language tree s'
  | later {s t s' : Session} {p q : Path} {rest : List Path} {a : Analysis} {language : String}
      {tree : Node}
      (strict : analyzePath fs (settings.withTolerance false) p s = .ok a t)
      (tolerant : analyzePath fs (settings.withTolerance true) p s = .ok a t)
      (behind : ComesToDamage fs settings t rest q language tree s') :
      ComesToDamage fs settings s (p :: rest) q language tree s'

/-- What a strict and a tolerant run come to: the same, which is no syntax error, or the strict one
ends at the first damaged file. -/
inductive InModes (fs : FileSystem) (settings : Settings) (s : Session) (paths : List Path) :
    EStateM.Result Trouble Session (List Analysis) →
    EStateM.Result Trouble Session (List Analysis) → Prop
  | agree {x : EStateM.Result Trouble Session (List Analysis)}
      (noSyntax : ∀ e s', x = .error e s' → e.isParsing = false) : InModes fs settings s paths x x
  | part {p : Path} {language : String} {tree : Node} {line : Nat} {s' : Session}
      {y : EStateM.Result Trouble Session (List Analysis)}
      (damage : ComesToDamage fs settings s paths p language tree s')
      (found : tree.damagedLine? = some line) :
      InModes fs settings s paths (.error (syntaxError p language line) s') y

/-- A file that both modes analyse comes in front of what the files after it come to. -/
theorem InModes.cons {s t : Session} {p : Path} {a : Analysis} {rest : List Path}
    {x y : EStateM.Result Trouble Session (List Analysis)}
    (strict : analyzePath fs (settings.withTolerance false) p s = .ok a t)
    (tolerant : analyzePath fs (settings.withTolerance true) p s = .ok a t)
    (h : InModes fs settings t rest x y) :
    InModes fs settings s (p :: rest) (consAnalysis a x) (consAnalysis a y) := by
  cases h with
  | agree noSyntax =>
    apply InModes.agree
    intro e s' he
    cases x with
    | ok analyses t' => cases he
    | error e' t' =>
      cases he
      exact noSyntax e s' rfl
  | part damage found => exact .part (.later strict tolerant damage) found

theorem inModes_analyzePaths (fs : FileSystem) (settings : Settings) (paths : List Path)
    (s : Session) : InModes fs settings s paths
      (analyzePaths fs (settings.withTolerance false) paths s)
      (analyzePaths fs (settings.withTolerance true) paths s) := by
  induction paths generalizing s with
  | nil => exact .agree (by rintro e s' ⟨⟩)
  | cons p rest ih =>
    have hopening := opening_openFile fs settings p s
    generalize hopen : openFile fs settings p s = opened at hopening
    cases hopening with
    | @failed e s' noSyntax =>
      -- neither mode gets to a tree
      have hfailed (on : Bool) :
          analyzePaths fs (settings.withTolerance on) (p :: rest) s = .error e s' := by
        apply analyzePaths_cons_of_error
        apply analyzePath_of_not_opened
        rw [openFile_withTolerance, hopen]
      rw [hfailed, hfailed]
      exact .agree (by rintro e' t ⟨⟩; exact noSyntax)
    | opened language source size =>
      cases hdamage : (nextTree s).label.damaged with
      | false =>
        -- both analyse the file, and are in the same session behind it
        have hsound (on : Bool) := analyzePath_of_sound hopen hdamage on
        rw [analyzePaths_cons_of_ok (hsound false), analyzePaths_cons_of_ok (hsound true)]
        exact .cons (hsound false) (hsound true) (ih _)
      | true =>
        obtain ⟨line, hline⟩ := Node.exists_damagedLine? hdamage
        rw [analyzePaths_cons_of_error (analyzePath_strict_of_damaged hopen hline)]
        exact .part (.here hopen hdamage) hline

/-- A strict run ends at the first damaged file. -/
theorem ComesToDamage.strict_eq {s s' : Session} {paths : List Path} {p : Path} {language : String}
    {tree : Node} {line : Nat} (h : ComesToDamage fs settings s paths p language tree s')
    (hline : tree.damagedLine? = some line) :
    analyzePaths fs (settings.withTolerance false) paths s =
      .error (syntaxError p language line) s' := by
  induction h with
  | here opened damaged =>
    exact analyzePaths_cons_of_error (analyzePath_strict_of_damaged opened hline) _
  | later strict tolerant behind ih =>
    rw [analyzePaths_cons_of_ok strict, ih hline]
    rfl

section

variable {s s' : Session} {paths : List Path} {analyses : List Analysis} {e : Trouble}
  {x y : EStateM.Result Trouble Session (List Analysis)}

theorem InModes.eq_of_ok (h : InModes fs settings s paths (.ok analyses s') y) :
    y = .ok analyses s' := by
  cases h
  rfl

theorem InModes.eq_of_error (h : InModes fs settings s paths (.error e s') y)
    (hother : e.isParsing = false) : y = .error e s' := by
  cases h with
  | agree _ => rfl
  | part _ _ => cases hother

theorem InModes.exists_damage (h : InModes fs settings s paths (.error e s') y)
    (hparsing : e.isParsing = true) : ∃ p language tree line,
      ComesToDamage fs settings s paths p language tree s' ∧ tree.damagedLine? = some line ∧
        e = syntaxError p language line := by
  cases h with
  | agree noSyntax => simp [noSyntax e s' rfl] at hparsing
  | part damage found => exact ⟨_, _, _, _, damage, found, rfl⟩

theorem InModes.eq_or_exists_damage (h : InModes fs settings s paths x (.error e s')) :
    x = .error e s' ∨
      ∃ p language tree t, ComesToDamage fs settings s paths p language tree t := by
  cases h with
  | agree _ => exact .inl rfl
  | part damage _ => exact .inr ⟨_, _, _, _, damage⟩

end

/-- A strict run that succeeds tells what the tolerant one does: the same, with the same reports.
The strict run ends with a syntax error where it comes to a file with a damaged tree, at the line of
the damage, and at no other file.  There the tolerant run reports the damage at that line, which is
its only report at the level of a warning or above, and analyses the tree.  Any other trouble ends
both runs alike, unless the strict one has come to a damaged file before. -/
theorem analyzePaths_withTolerance (fs : FileSystem) (settings : Settings) :
    let strict := settings.withTolerance false
    let tolerant := settings.withTolerance true
    (∀ paths s analyses s', analyzePaths fs strict paths s = .ok analyses s' →
      analyzePaths fs tolerant paths s = .ok analyses s') ∧
    (∀ paths s e s', analyzePaths fs strict paths s = .error e s' ∧ e.isParsing = true ↔
      ∃ p language tree line, ComesToDamage fs settings s paths p language tree s' ∧
        tree.damagedLine? = some line ∧ e = syntaxError p language line) ∧
    (∀ p s language tree s', openFile fs settings p s = .ok (language, tree) s' →
      tree.label.damaged = true → ∃ line added t,
        tree = nextTree s ∧ tree.damagedLine? = some line ∧
        analyzePath fs strict p s = .error (syntaxError p language line) s' ∧
        analyzePath fs tolerant p s =
          .ok ((Cursor.root tree).analyze p.text language settings.importCallee).1 t ∧
        t.events = s.events ++ added ∧
        added.filter (fun e => LogSetup.admits .warning e.level) = [.recovered p.text line]) ∧
    (∀ paths s e s', e.isParsing = false → analyzePaths fs strict paths s = .error e s' →
      analyzePaths fs tolerant paths s = .error e s') ∧
    (∀ paths s e s', analyzePaths fs tolerant paths s = .error e s' →
      analyzePaths fs strict paths s = .error e s' ∨
        ∃ p language tree t, ComesToDamage fs settings s paths p language tree t) := by
  intro strict tolerant
  have hmodes (paths : List Path) (s : Session) : InModes fs settings s paths
    (analyzePaths fs strict paths s) (analyzePaths fs tolerant paths s) :=
    inModes_analyzePaths fs settings paths s
  refine ⟨?_, ?_, ?_, ?_, ?_⟩
  · intro paths s analyses s' hstrict
    have h := hmodes paths s
    rw [hstrict] at h
    exact h.eq_of_ok
  · intro paths s e s'
    constructor
    · rintro ⟨hstrict, hparsing⟩
      have h := hmodes paths s
      rw [hstrict] at h
      exact h.exists_damage hparsing
    · rintro ⟨p, language, tree, line, damage, hline, rfl⟩
      exact ⟨damage.strict_eq hline, rfl⟩
  · intro p s language tree s' hopen hdamage
    obtain ⟨line, hline⟩ := Node.exists_damagedLine? hdamage
    obtain ⟨added, hadded, hwarnings⟩ := warnings_of_recovered hopen line
    refine ⟨line, added, _, tree_of_opened hopen, hline, analyzePath_strict_of_damaged hopen hline,
      ?_, hadded, hwarnings⟩
    rw [analyzePath_tolerant_of_damaged hopen hline, analyzeTree_eq]
  · intro paths s e s' hother hstrict
    have h := hmodes paths s
    rw [hstrict] at h
    exact h.eq_of_error hother
  · intro paths s e s' htolerant
    have h := hmodes paths s
    rw [htolerant] at h
    exact h.eq_or_exists_damage

/-- The tree of a source with an error on its third line. -/
def damagedTree : Node :=
  .mk 0 { type := "program", row := 0, damaged := true }
    [.mk 1 { type := "ERROR", row := 2, damaged := true } []]

/-- A damaged file ends a strict run, and the tolerant one goes on with a warning. -/
theorem analyzePaths_withTolerance_damagedTree :
    let p : Path := ⟨0, ["a.js"]⟩
    let s : Session := { supply := [damagedTree] }
    let opened := afterOpening p 3 "javascript" "f()" s
    openFile oneSource {} p s = .ok ("javascript", damagedTree) opened ∧
    damagedTree.label.damaged = true ∧
    analyzePaths oneSource (({} : Settings).withTolerance false) [p] s =
      .error (syntaxError p "javascript" 3) opened ∧
    ∃ added t, analyzePath oneSource (({} : Settings).withTolerance true) p s =
        .ok ((Cursor.root damagedTree).analyze p.text "javascript" "require").1 t ∧
      t.events = s.events ++ added ∧
      added.filter (fun e => LogSetup.admits .warning e.level) = [.recovered p.text 3] := by
  intro p s opened
  have hlanguage : Language.ofPath? p = some .javascript := ofPath?_script 0
  have hlimit : ({} : Settings).maxFileBytes = .ok 10485760 := rfl
  have hread : oneSource.readSource p 10485760 = .ok ("f()", 3) := rfl
  have hopen := openFile_of_source hlanguage hlimit hread s
  have hline : damagedTree.damagedLine? = some 3 := by cbv
  obtain ⟨-, hstrict, hfile, -, -⟩ := analyzePaths_withTolerance oneSource {}
  obtain ⟨line, added, t, -, hfound, -, htolerant, hadded, hwarnings⟩ :=
    hfile p s "javascript" damagedTree opened hopen rfl
  obtain rfl : line = 3 := Option.some.inj (hfound.symm.trans hline)
  have hends := (hstrict [p] s (syntaxError p "javascript" 3) opened).mpr
    ⟨p, "javascript", damagedTree, 3, .here hopen rfl, hline, rfl⟩
  exact ⟨hopen, rfl, hends.1, added, t, htolerant, hadded, hwarnings⟩

end Run

end CodeMetrics
