import CodeMetrics.Session.Analyze

/-!
# Files analysed one by one

A run over several files carries a session from file to file.  Of that session
an analysis uses the trees still to come and nothing else, so a run over
several files is a sequence of runs of their own.

* `Run.BySupply` — computations whose answer, and whose requests, depend on the
  session by its supply of trees only; analyses are such computations
  (`Run.bySupply_analyzeFile`), whatever grammars are ready;
* `Run.analyzeAlone` — the analysis of one file of several, without the others;
* `Run.Successes` — runs of their own that all succeed, each with the trees that
  the ones before it have left;
* `Run.analyzePaths_in_turn` — a run over several files is such a sequence, up to
  its end or to the first run that fails.
-/

namespace CodeMetrics

namespace Session

theorem supply_prepare (s : Session) (language : String) :
    (s.prepare language).supply = s.supply := by
  unfold prepare
  split <;> rfl

theorem requests_prepare (s : Session) (language : String) :
    (s.prepare language).requests = s.requests := by
  unfold prepare
  split <;> rfl

end Session

namespace Run

variable {α β : Type}

/-! ## Computations that depend on the supply only -/

/-- Two sessions `s` and `t` have become `s'` and `t'` alongside each other: the same trees are
left, and the same requests were made. -/
structure Alongside (s t s' t' : Session) : Prop where
  supply : s'.supply = t'.supply
  requests : ∃ made, s'.requests = s.requests ++ made ∧ t'.requests = t.requests ++ made

/-- Two outcomes with the same answer, of computations that started in `s` and in `t`. -/
inductive Alike (s t : Session) :
    EStateM.Result Trouble Session α → EStateM.Result Trouble Session α → Prop
  | ok {a : α} {s' t' : Session} : Alongside s t s' t' → Alike s t (.ok a s') (.ok a t')
  | error {e : Trouble} {s' t' : Session} :
      Alongside s t s' t' → Alike s t (.error e s') (.error e t')

/-- What the computation does depends on the session by its supply of trees only. -/
def BySupply (run : Run α) : Prop :=
  ∀ s t : Session, s.supply = t.supply → Alike s t (run s) (run t)

theorem Alongside.refl {s t : Session} (h : s.supply = t.supply) : Alongside s t s t :=
  ⟨h, [], (List.append_nil _).symm, (List.append_nil _).symm⟩

theorem Alongside.trans {s t s' t' s'' t'' : Session} (h : Alongside s t s' t')
    (h' : Alongside s' t' s'' t'') : Alongside s t s'' t'' := by
  obtain ⟨made, hs, ht⟩ := h.requests
  obtain ⟨made', hs', ht'⟩ := h'.requests
  refine ⟨h'.supply, made ++ made', ?_, ?_⟩
  · rw [hs', hs, List.append_assoc]
  · rw [ht', ht, List.append_assoc]

/-- Next to a session that has made no request yet, all requests of the other are its own. -/
theorem Alongside.requests_of_fresh {s s' t' : Session} {supply : List Node}
    (h : Alongside s { supply } s' t') : s'.requests = s.requests ++ t'.requests := by
  obtain ⟨made, hs, ht⟩ := h.requests
  rw [hs, ht, List.nil_append]

theorem Alike.after {s t s' t' : Session} {x y : EStateM.Result Trouble Session α}
    (hxy : Alike s' t' x y) (h : Alongside s t s' t') : Alike s t x y := by
  cases hxy with
  | ok h' => exact .ok (h.trans h')
  | error h' => exact .error (h.trans h')

theorem bySupply_pure (a : α) : BySupply (pure a : Run α) :=
  fun _ _ h => .ok (.refl h)

theorem bySupply_throw (e : Trouble) : BySupply (throw e : Run α) :=
  fun _ _ h => .error (.refl h)

/-- One such computation after the other is such a computation. -/
theorem BySupply.bind {run : Run α} {next : α → Run β} (hrun : BySupply run)
    (hnext : ∀ a, BySupply (next a)) : BySupply (run >>= next) := by
  intro s t h
  have halike := hrun s t h
  show Alike s t (EStateM.bind run next s) (EStateM.bind run next t)
  unfold EStateM.bind
  generalize run s = x at halike ⊢
  generalize run t = y at halike ⊢
  cases halike with
  -- the first steps leave the same trees, so the second ones can be compared again
  | ok halong => exact (hnext _ _ _ halong.supply).after halong
  | error halong => exact .error halong

/-- Grammars and reports are not asked for. -/
theorem bySupply_modify {f : Session → Session} (hsupply : ∀ s, (f s).supply = s.supply)
    (hrequests : ∀ s, (f s).requests = s.requests) : BySupply (modify f) := by
  intro s t h
  refine .ok ⟨?_, [], ?_, ?_⟩
  · rw [hsupply, hsupply, h]
  · rw [hrequests, List.append_nil]
  · rw [hrequests, List.append_nil]

theorem bySupply_report (e : Event) : BySupply (report e) :=
  bySupply_modify (fun _ => rfl) (fun _ => rfl)

theorem bySupply_prepare (language : String) : BySupply (prepare language) := by
  unfold prepare
  split
  · exact bySupply_throw _
  · exact bySupply_modify (fun s => s.supply_prepare language)
      (fun s => s.requests_prepare language)

/-- A request is answered from the supply, whether or not the grammar was ready. -/
theorem bySupply_requestTree (language source : String) :
    BySupply (requestTree language source) := by
  refine (bySupply_prepare language).bind fun _ => ?_
  intro s t h
  have hsession : Alongside s t (s.request language source).2 (t.request language source).2 :=
    ⟨congrArg List.tail h, [(language, source)], rfl, rfl⟩
  have hanswer : (s.request language source).1 = (t.request language source).1 :=
    congrArg (fun supply => supply.head?.getD emptyProgram) h
  show Alike s t (.ok (s.request language source).1 _) (.ok (t.request language source).1 _)
  rw [hanswer]
  exact .ok hsession

/-! ## Analyses -/

theorem bySupply_languageOf (p : Path) : BySupply (languageOf p) := by
  unfold languageOf
  split
  · exact bySupply_pure _
  · exact bySupply_throw _

theorem bySupply_inspect (settings : Settings) (path language : String) (tree : Node) :
    BySupply (inspect settings path language tree) := by
  unfold inspect
  split
  · exact bySupply_pure _
  · split
    · exact bySupply_report _
    · exact bySupply_throw _

theorem bySupply_analyzeTree (settings : Settings) (path language : String) (tree : Node) :
    BySupply (analyzeTree settings path language tree) := by
  unfold analyzeTree
  refine BySupply.bind (bySupply_modify (fun _ => rfl) (fun _ => rfl)) fun _ => ?_
  exact (bySupply_report _).bind fun _ => bySupply_pure _

theorem bySupply_analyzeSource (settings : Settings) (source path : String)
    (language? : Option String) : BySupply (analyzeSource settings source path language?) := by
  have hrest : ∀ language, BySupply (do
      let tree ← requestTree language source
      inspect settings path language tree
      analyzeTree settings path language tree) := by
    intro language
    refine (bySupply_requestTree language source).bind fun tree => ?_
    exact (bySupply_inspect settings path language tree).bind fun _ =>
      bySupply_analyzeTree settings path language tree
  unfold analyzeSource
  split
  · exact (bySupply_pure _).bind hrest
  · exact (bySupply_languageOf _).bind hrest

theorem bySupply_readSource (fs : FileSystem) (p : Path) (limit : Int) :
    BySupply (readSource fs p limit) := by
  unfold readSource
  split
  · exact bySupply_throw _
  · exact (bySupply_report _).bind fun _ => bySupply_pure _

/-- The analysis of a file uses no grammar that an earlier one has made ready. -/
theorem bySupply_analyzeFile (fs : FileSystem) (settings : Settings) (p : Path) :
    BySupply (analyzeFile fs settings p) := by
  have hrest : ∀ language limit, BySupply (do
      let source ← readSource fs p limit
      analyzeSource settings source p.text (some language)) := by
    intro language limit
    exact (bySupply_readSource fs p limit).bind fun source =>
      bySupply_analyzeSource settings source p.text (some language)
  unfold analyzeFile
  refine (bySupply_languageOf p).bind fun language => ?_
  split
  · exact (bySupply_pure _).bind (hrest language)
  · exact (bySupply_throw _).bind (hrest language)

/-! ## One file of several -/

/-- The analysis of one file of several, without the others.  Directories are refused.  Where the
system refuses to tell what stands at the path, the run ends with that even if the ending of the
file tells no language, of which an analysis of the file would complain first. -/
def analyzeAlone (fs : FileSystem) (settings : Settings) (p : Path) : Run Analysis :=
  match fs.look p, Language.ofPath? p with
  | .found (.directory _), _ => throw (ReadFault.directory.trouble p)
  | .refused e, none => throw ((ReadFault.refused e).trouble p)
  | _, _ => analyzeFile fs settings p

/-- With a language and a limit, the analysis of a file is that of the source which is read. -/
theorem analyzeFile_of_language {settings : Settings} {p : Path} {l : Language} {limit : Int}
    (hlanguage : Language.ofPath? p = some l) (hlimit : settings.maxFileBytes = .ok limit)
    (fs : FileSystem) :
    analyzeFile fs settings p =
      readSource fs p limit >>= fun source =>
        analyzeSource settings source p.text (some l.name) := by
  unfold analyzeFile languageOf
  rw [hlanguage, hlimit]
  rfl

/-- Where the size limit is a number, the refusal of the system is the trouble of a file with a
known ending. -/
theorem analyzeFile_refused {fs : FileSystem} {settings : Settings} {p : Path} {l : Language}
    {limit : Int} {e : OsError} (hlook : fs.look p = .refused e)
    (hlanguage : Language.ofPath? p = some l) (hlimit : settings.maxFileBytes = .ok limit) :
    analyzeFile fs settings p = throw ((ReadFault.refused e).trouble p) := by
  rw [analyzeFile_of_language hlanguage hlimit]
  unfold readSource FileSystem.readSource
  rw [hlook]
  rfl

theorem analyzePath_eq_analyzeAlone {settings : Settings} {limit : Int}
    (hlimit : settings.maxFileBytes = .ok limit) (fs : FileSystem) (p : Path) :
    analyzePath fs settings p = analyzeAlone fs settings p := by
  unfold analyzePath analyzeAlone
  split
  · -- a refusal: with a known ending the analysis gets as far as the file
    rename_i hlook
    rw [hlook]
    cases hlanguage : Language.ofPath? p with
    | none => rfl
    | some l => exact (analyzeFile_refused hlook hlanguage hlimit).symm
  · rename_i hlook
    rw [hlook]
  · rename_i hrefused hdirectory
    split
    · rename_i hlook
      exact absurd hlook (hdirectory _)
    · rename_i hlook _
      exact absurd hlook (hrefused _)
    · rfl

theorem bySupply_analyzePath (fs : FileSystem) (settings : Settings) (p : Path) :
    BySupply (analyzePath fs settings p) := by
  unfold analyzePath
  split
  · exact bySupply_throw _
  · exact bySupply_throw _
  · exact bySupply_analyzeFile fs settings p

/-! ## Several files -/

/-- Files that are all analysed by runs of their own, each with the trees that the ones before it
have left: the trees at the start, the files, their analyses, the requests made, and the trees that
are left. -/
inductive Successes (fs : FileSystem) (settings : Settings) :
    List Node → List Path → List Analysis → List (String × String) → List Node → Prop
  | nil {supply : List Node} : Successes fs settings supply [] [] [] supply
  | cons {supply left : List Node} {p : Path} {rest : List Path} {a : Analysis}
      {analyses : List Analysis} {made : List (String × String)} {s : Session}
      (head : analyzeAlone fs settings p { supply } = .ok a s)
      (tail : Successes fs settings s.supply rest analyses made left) :
      Successes fs settings supply (p :: rest) (a :: analyses) (s.requests ++ made) left

/-- What a run over several files comes to if it analyses them in turn: either all of them succeed,
or the run ends with the trouble of the first that fails, and the files after it are not looked
at. -/
inductive InTurn (fs : FileSystem) (settings : Settings) (s : Session) (paths : List Path) :
    EStateM.Result Trouble Session (List Analysis) → Prop
  | completed {analyses : List Analysis} {made : List (String × String)} {s' : Session}
      (all : Successes fs settings s.supply paths analyses made s'.supply)
      (requests : s'.requests = s.requests ++ made) :
      InTurn fs settings s paths (.ok analyses s')
  | stopped {before after : List Path} {p : Path} {analyses : List Analysis}
      {made : List (String × String)} {left : List Node} {e : Trouble} {s' t : Session}
      (split : paths = before ++ p :: after)
      (earlier : Successes fs settings s.supply before analyses made left)
      (failed : analyzeAlone fs settings p { supply := left } = .error e t)
      (supply : s'.supply = t.supply)
      (requests : s'.requests = s.requests ++ (made ++ t.requests)) :
      InTurn fs settings s paths (.error e s')

/-- An analysis in front of what the files after it come to. -/
def consAnalysis (a : Analysis) :
    EStateM.Result Trouble Session (List Analysis) → EStateM.Result Trouble Session (List Analysis)
  | .error e s => .error e s
  | .ok analyses s => .ok (a :: analyses) s

theorem analyzePaths_cons (fs : FileSystem) (settings : Settings) (p : Path) (rest : List Path)
    (s : Session) :
    analyzePaths fs settings (p :: rest) s =
      match analyzePath fs settings p s with
      | .error e s' => .error e s'
      | .ok a s' => consAnalysis a (analyzePaths fs settings rest s') := by
  show EStateM.bind _ _ s = _
  unfold EStateM.bind
  cases analyzePath fs settings p s with
  | error e s' => rfl
  | ok a s' =>
    show EStateM.bind _ _ s' = consAnalysis a _
    unfold EStateM.bind
    cases analyzePaths fs settings rest s' with
    | error e s'' => rfl
    | ok analyses s'' => rfl

theorem analyzePaths_cons_of_ok {fs : FileSystem} {settings : Settings} {p : Path} {s s' : Session}
    {a : Analysis} (h : analyzePath fs settings p s = .ok a s') (rest : List Path) :
    analyzePaths fs settings (p :: rest) s = consAnalysis a (analyzePaths fs settings rest s') := by
  rw [analyzePaths_cons, h]

theorem analyzePaths_cons_of_error {fs : FileSystem} {settings : Settings} {p : Path}
    {s s' : Session} {e : Trouble} (h : analyzePath fs settings p s = .error e s')
    (rest : List Path) : analyzePaths fs settings (p :: rest) s = .error e s' := by
  rw [analyzePaths_cons, h]

theorem bySupply_analyzePaths (fs : FileSystem) (settings : Settings) (paths : List Path) :
    BySupply (analyzePaths fs settings paths) := by
  induction paths with
  | nil => exact bySupply_pure _
  | cons p rest ih =>
    exact (bySupply_analyzePath fs settings p).bind fun a => ih.bind fun _ => bySupply_pure _

/-- A file that is analysed is one more success in front of what follows. -/
theorem InTurn.cons {fs : FileSystem} {settings : Settings} {s s' t' : Session} {p : Path}
    {a : Analysis} (hfirst : analyzeAlone fs settings p { supply := s.supply } = .ok a t')
    (halong : Alongside s { supply := s.supply } s' t') {rest : List Path}
    {x : EStateM.Result Trouble Session (List Analysis)} (h : InTurn fs settings s' rest x) :
    InTurn fs settings s (p :: rest) (consAnalysis a x) := by
  have hrequests := halong.requests_of_fresh
  have hsupply := halong.supply
  -- what follows starts with the trees that a run of the first file's own has left
  cases h with
  | completed all requests =>
    rw [hsupply] at all
    refine .completed (.cons hfirst all) ?_
    rw [requests, hrequests, List.append_assoc]
  | stopped split earlier failed supply requests =>
    rw [hsupply] at earlier
    refine .stopped (by rw [split, List.cons_append]) (.cons hfirst earlier) failed supply ?_
    rw [requests, hrequests, List.append_assoc, List.append_assoc]

theorem inTurn_analyzePaths {settings : Settings} {limit : Int}
    (hlimit : settings.maxFileBytes = .ok limit) (fs : FileSystem) (paths : List Path)
    (s : Session) : InTurn fs settings s paths (analyzePaths fs settings paths s) := by
  induction paths generalizing s with
  | nil => exact .completed .nil (List.append_nil _).symm
  | cons p rest ih =>
    -- the first file comes to the same in the session as in one with nothing but its trees
    have halike := bySupply_analyzePath fs settings p s { supply := s.supply } rfl
    rw [analyzePaths_cons]
    generalize analyzePath fs settings p s = x at halike ⊢
    generalize hfresh : analyzePath fs settings p { supply := s.supply } = y at halike
    rw [analyzePath_eq_analyzeAlone hlimit] at hfresh
    cases halike with
    | ok halong => exact .cons hfresh halong (ih _)
    | error halong =>
      exact .stopped rfl .nil hfresh halong.supply halong.requests_of_fresh

/-- A run over several files analyses them in turn, each as a run of its own would, and what was
made ready or reported before it has no influence on its answer. -/
theorem analyzePaths_in_turn {settings : Settings} {limit : Int}
    (hlimit : settings.maxFileBytes = .ok limit) (fs : FileSystem) (paths : List Path) :
    (∀ s, InTurn fs settings s paths (analyzePaths fs settings paths s)) ∧
      BySupply (analyzePaths fs settings paths) :=
  ⟨inTurn_analyzePaths hlimit fs paths, bySupply_analyzePaths fs settings paths⟩

/-- A source among directories. -/
def oneSource : FileSystem where
  look p :=
    if p.names = ["a.js"] then .found (.file "f()".toUTF8)
    else .found (.directory (.isDirectory p.text))

theorem ofPath?_script (slashes : Nat) :
    Language.ofPath? ⟨slashes, ["a.js"]⟩ = some .javascript := by
  show Language.ofSuffix? ((Path.suffixOf "a.js").map Char.toLower) = _
  decide +kernel

/-- A directory behind the source ends the run.  The tree of the source was asked for, and there is
no analysis all the same. -/
theorem analyzePaths_in_turn_oneSource :
    let paths : List Path := [⟨0, ["a.js"]⟩, ⟨0, ["lib"]⟩, ⟨0, ["a.js"]⟩]
    let s : Session := { grammars := ["tsx"], supply := [emptyProgram] }
    ({} : Settings).maxFileBytes = .ok 10485760 ∧
    (∃ a s', analyzeAlone oneSource {} ⟨0, ["a.js"]⟩ { supply := s.supply } = .ok a s' ∧
      s'.requests = [("javascript", "f()")]) ∧
    (∃ s', analyzePaths oneSource {} paths s =
        .error (.reported (.fileAccess "lib" "is a directory; pass source files explicitly")) s' ∧
      s'.requests = [("javascript", "f()")]) ∧
    InTurn oneSource {} s paths (analyzePaths oneSource {} paths s) ∧
    BySupply (analyzePaths oneSource {} paths) := by
  intro paths s
  have hlimit : ({} : Settings).maxFileBytes = .ok 10485760 := rfl
  obtain ⟨hturn, hsupply⟩ := analyzePaths_in_turn hlimit oneSource paths
  have hsource (t : Session) (ht : t ∈ [s, { supply := s.supply }]) :
      ∃ a t', analyzeAlone oneSource {} ⟨0, ["a.js"]⟩ t = .ok a t' ∧
        t'.requests = [("javascript", "f()")] := by
    have hread : oneSource.readSource ⟨0, ["a.js"]⟩ 10485760 = .ok ("f()", 3) := rfl
    have halone : analyzeAlone oneSource {} ⟨0, ["a.js"]⟩ = _ :=
      analyzeFile_of_language (ofPath?_script 0) hlimit oneSource
    rw [halone, readSource, hread]
    simp only [List.mem_cons, List.not_mem_nil, or_false] at ht
    rcases ht with rfl | rfl
    · refine ⟨_, _, rfl, ?_⟩
      rfl
    · refine ⟨_, _, rfl, ?_⟩
      rfl
  have hlib (t : Session) : analyzePath oneSource {} ⟨0, ["lib"]⟩ t =
      .error (.reported (.fileAccess "lib" "is a directory; pass source files explicitly")) t :=
    rfl
  refine ⟨hlimit, ?_, ?_, hturn s, hsupply⟩
  · exact hsource _ (by simp)
  · obtain ⟨a, s', ha, hrequests⟩ := hsource s (by simp)
    rw [← analyzePath_eq_analyzeAlone hlimit] at ha
    refine ⟨s', ?_, hrequests⟩
    rw [analyzePaths_cons_of_ok ha, analyzePaths_cons_of_error (hlib s')]
    rfl

/-! ## Paths of which the system refuses to tell -/

/-- An analysis complains of the ending of a file before it looks for the file. -/
theorem analyzeFile_of_unknown {fs : FileSystem} {settings : Settings} {p : Path}
    (hlanguage : Language.ofPath? p = none) (hsuffix : p.suffix.isEmpty = false) (s : Session) :
    analyzeFile fs settings p s =
      .error (.reported (.unsupportedLanguage p.suffix Language.supported (some p.text))) s := by
  unfold analyzeFile languageOf
  rw [hlanguage, hsuffix]
  rfl

/-- A run over several files comes upon the refusal before it looks at the ending of the file. -/
theorem analyzePaths_of_refused {fs : FileSystem} {p : Path} {e : OsError}
    (hlook : fs.look p = .refused e) (settings : Settings) (rest : List Path) (s : Session) :
    analyzePaths fs settings (p :: rest) s = .error (.uncaught (.os e)) s := by
  rw [analyzePaths_cons, analyzePath, hlook]
  rfl

theorem text_of_name (name : String) : (Path.mk 0 [name]).text = name := by
  show "" ++ name = name
  exact String.empty_append

theorem look_of_name_too_long {name : String} (hnull : '\x00' ∉ name.toList)
    (hname : Disk.maxNameBytes < name.utf8ByteSize)
    (hpath : name.utf8ByteSize ≤ Disk.maxPathBytes) :
    (Disk.view { cwd := [] }).look ⟨0, [name]⟩ = .refused (.nameTooLong name) := by
  unfold Disk.view
  dsimp only
  rw [text_of_name, if_neg hnull, if_neg (Nat.not_lt.mpr hpath)]
  show (if Disk.maxNameBytes < name.utf8ByteSize then _ else _) = _
  rw [if_pos hname]

theorem suffixOf_txt (c : Char) (front : List Char) :
    Path.suffixOf (String.ofList (c :: front ++ ['.', 't', 'x', 't'])) = ".txt" := by
  unfold Path.suffixOf
  rw [String.toList_ofList, List.reverse_append]
  simp

/-- A name of letters has one byte for each of them, and those of its ending. -/
theorem utf8ByteSize_name (n : Nat) (ending : List Char) :
    (String.ofList (List.replicate n 'n' ++ ending)).utf8ByteSize =
      n + (String.ofList ending).utf8ByteSize := by
  induction n with
  | zero => exact (Nat.zero_add _).symm
  | succ n ih =>
    rw [List.replicate_succ, List.cons_append, String.ofList_cons, String.utf8ByteSize_append, ih]
    show 1 + _ = _
    omega

theorem null_not_mem_name (n : Nat) {ending : List Char} (h : '\x00' ∉ ending) :
    '\x00' ∉ (String.ofList (List.replicate n 'n' ++ ending)).toList := by
  rw [String.toList_ofList, List.mem_append, not_or]
  exact ⟨fun hmem => absurd (List.eq_of_mem_replicate hmem) (by decide), h⟩

/-- A name that is one byte too long, with an ending that tells no language. -/
def longName : String :=
  String.ofList ('n' :: List.replicate 251 'n' ++ ['.', 't', 'x', 't'])

/-- By itself the file is refused for its language, and as the only one of several the run ends on
the length of its name. -/
theorem analyzePaths_longName :
    let fs := Disk.view { cwd := [] }
    let p : Path := ⟨0, [longName]⟩
    ({} : Settings).maxFileBytes = .ok 10485760 ∧
    analyzeFile fs {} p {} =
      .error (.reported (.unsupportedLanguage ".txt" Language.supported (some longName))) {} ∧
    analyzePaths fs {} [p] {} = .error (.uncaught (.os (.nameTooLong longName))) {} := by
  intro fs p
  have hsize : longName.utf8ByteSize = 256 := utf8ByteSize_name 252 ['.', 't', 'x', 't']
  have hnull : '\x00' ∉ longName.toList := null_not_mem_name 252 (by decide)
  have hlook : fs.look p = .refused (.nameTooLong longName) :=
    look_of_name_too_long hnull (by rw [hsize]; decide) (by rw [hsize]; decide)
  have htext : p.text = longName := text_of_name longName
  have hsuffix : p.suffix = ".txt" := suffixOf_txt 'n' (List.replicate 251 'n')
  have hlanguage : Language.ofPath? p = none := by
    rw [Language.ofPath?, hsuffix]
    decide +kernel
  refine ⟨rfl, ?_, ?_⟩
  · rw [analyzeFile_of_unknown hlanguage (by rw [hsuffix]; decide), hsuffix, htext]
  · rw [analyzePaths_of_refused hlook]

end Run

end CodeMetrics
