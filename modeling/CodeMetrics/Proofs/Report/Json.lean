import CodeMetrics.Proofs.Report.JsonTokens

/-!
# Reports read back

The second half of the reader for JSON puts tokens together to one value, and
with it a report is read back.

* `Json.State`, `Json.next` — what is around the reader, and one more token;
* `Json.read?` — the value of a text;
* `Json.readFrom` — the same from any state, on which `JsonValue.readFrom_chars`
  says that a document, wherever it stands, is read as its value and leaves
  what is around it as it was;
* `Report.read?_json` — the value of a report, which is written in ASCII alone.
-/

namespace CodeMetrics

namespace Json

/-- What a value stands in: a list behind other items, or an object behind other fields, under a
key. -/
inductive Context where
  | item (before : List Json)
  | member (before : List (String × Json)) (key : String)
deriving Repr, Inhabited

/-- Where the reader stands in what is innermost. -/
inductive Place where
  /-- Before a value. -/
  | value
  /-- Before the key of a field. -/
  | key (before : List (String × Json))
  /-- Behind a key. -/
  | colon (before : List (String × Json)) (key : String)
  /-- Behind a value. -/
  | behind (v : Json)
deriving Repr, Inhabited

/-- Where the reader stands, and what is around it, innermost first. -/
structure State where
  place : Place
  around : List Context
deriving Repr, Inhabited

/-- One more token.  A list or an object can end behind a value, or at once where it is empty. -/
def next : Token → State → Option State
  | .openArray, ⟨.value, k⟩ => some ⟨.value, .item [] :: k⟩
  | .openObject, ⟨.value, k⟩ => some ⟨.key [], k⟩
  | .scalar v, ⟨.value, k⟩ => some ⟨.behind v, k⟩
  | .text s, ⟨.value, k⟩ => some ⟨.behind (.text s), k⟩
  | .text s, ⟨.key before, k⟩ => some ⟨.colon before s, k⟩
  | .colon, ⟨.colon before key, k⟩ => some ⟨.value, .member before key :: k⟩
  | .comma, ⟨.behind v, .item before :: k⟩ => some ⟨.value, .item (before ++ [v]) :: k⟩
  | .comma, ⟨.behind v, .member before key :: k⟩ => some ⟨.key (before ++ [(key, v)]), k⟩
  | .closeArray, ⟨.value, .item [] :: k⟩ => some ⟨.behind (.array []), k⟩
  | .closeArray, ⟨.behind v, .item before :: k⟩ => some ⟨.behind (.array (before ++ [v])), k⟩
  | .closeObject, ⟨.key [], k⟩ => some ⟨.behind (.object []), k⟩
  | .closeObject, ⟨.behind v, .member before key :: k⟩ =>
      some ⟨.behind (.object (before ++ [(key, v)])), k⟩
  | _, _ => none

/-- The value behind which the reader stands, if nothing is around it. -/
def State.value? : State → Option Json
  | ⟨.behind v, []⟩ => some v
  | _ => none

/-- The value that tokens come to. -/
def assemble? (s : State) (tokens : List Token) : Option Json :=
  (tokens.foldlM (fun s t => next t s) s).bind State.value?

/-- Reads the rest of a text from between two tokens. -/
def readFrom (s : State) (cs : List Char) : Option Json :=
  (tokensFrom .between cs).bind (assemble? s)

/-- Reads one value of JSON. -/
def read? (s : String) : Option Json := readFrom ⟨.value, []⟩ s.toList

/-! ## One token -/

section

variable {s s' : State} {t : Token} {rest : List Char}

/-- Text that begins with a token is read on from behind it. -/
theorem readFrom_of_token {cs : List Char}
    (hcs : tokensFrom .between cs = (tokensFrom .between rest).map (t :: ·))
    (hnext : next t s = some s') : readFrom s cs = readFrom s' rest := by
  rw [readFrom, readFrom, hcs, Option.bind_map]
  refine congrArg _ (funext fun tokens => ?_)
  simp only [Function.comp_apply, assemble?, List.foldlM_cons, hnext]
  rfl

theorem readFrom_mark {c : Char} (hc : begin c = some ([t], .between))
    (hnext : next t s = some s') : readFrom s (c :: rest) = readFrom s' rest :=
  readFrom_of_token (tokensFrom_mark hc rest) hnext

theorem readFrom_quoted {text : String} (hnext : next (.text text) s = some s') :
    readFrom s (JsonValue.quoted text ++ rest) = readFrom s' rest :=
  readFrom_of_token (tokensFrom_quoted text rest) hnext

theorem readFrom_integer {n : Int} (hrest : Ends rest)
    (hnext : next (.scalar (.integer n)) s = some s') :
    readFrom s ((toString n).toList ++ rest) = readFrom s' rest :=
  readFrom_of_token (tokensFrom_integer n hrest) hnext

@[simp] theorem readFrom_newLine (level : Nat) :
    readFrom s (JsonValue.newLine level ++ rest) = readFrom s rest := by
  rw [readFrom, readFrom, tokensFrom_newLine]

/-- Behind the colon of a field there is one space. -/
theorem readFrom_space : readFrom s (' ' :: rest) = readFrom s rest := by
  rw [readFrom, readFrom, tokensFrom_of_silent .between rfl]

end

end Json

namespace JsonValue

open Json

/-- The value that a document is. -/
def toJson : JsonValue → Json
  | text s => .text s
  | number n => .integer n
  | array items => .array (items.map toJson)
  | object fields => .object (fields.map fun f => (f.1, toJson f.2))
decreasing_by
  · have := List.sizeOf_lt_of_mem ‹_ ∈ items›
    simp only [array.sizeOf_spec]
    omega
  · have := List.sizeOf_lt_of_mem ‹f ∈ fields›
    have : sizeOf f.2 < sizeOf f := by cases f; simp only [Prod.mk.sizeOf_spec]; omega
    simp only [object.sizeOf_spec]
    omega

/-! ## Whole documents -/

theorem ends_moreItems (level level' : Nat) (items : List JsonValue) (rest : List Char) :
    Ends (moreItems level items ++ (newLine level' ++ rest)) := by
  cases items with
  | nil => exact ends_newLine level' rest
  | cons x items => exact ends_cons rfl _

theorem ends_moreFields (level level' : Nat) (fields : List (String × JsonValue))
    (rest : List Char) : Ends (moreFields level fields ++ (newLine level' ++ rest)) := by
  cases fields with
  | nil => exact ends_newLine level' rest
  | cons f fields => exact ends_cons rfl _

mutual

/-- A document is read as its value, whatever it stands in and whatever comes after it. -/
theorem readFrom_chars (level : Nat) (k : List Context) (v : JsonValue) {rest : List Char}
    (hrest : Ends rest) :
    readFrom ⟨.value, k⟩ (chars level v ++ rest) = readFrom ⟨.behind v.toJson, k⟩ rest := by
  match v with
  | .text s =>
    rw [chars, toJson]
    exact readFrom_quoted rfl
  | .number n =>
    rw [chars, toJson]
    exact readFrom_integer hrest rfl
  | .array [] =>
    rw [chars, toJson]
    exact (readFrom_mark rfl rfl).trans (readFrom_mark rfl rfl)
  | .array (x :: items) =>
    rw [chars, toJson]
    simp only [List.cons_append, List.append_assoc]
    rw [readFrom_mark rfl rfl, readFrom_newLine,
      readFrom_chars (level + 1) _ x (ends_moreItems _ _ _ _)]
    exact readFrom_moreItems (level + 1) level k [] x.toJson items rest
  | .object [] =>
    rw [chars, toJson]
    exact (readFrom_mark rfl rfl).trans (readFrom_mark rfl rfl)
  | .object ((key, x) :: fields) =>
    rw [chars, toJson]
    simp only [List.cons_append, List.append_assoc, List.nil_append]
    rw [readFrom_mark rfl rfl, readFrom_newLine, readFrom_quoted rfl, readFrom_mark rfl rfl,
      readFrom_space, readFrom_chars (level + 1) _ x (ends_moreFields _ _ _ _)]
    exact readFrom_moreFields (level + 1) level k [] key x.toJson fields rest

/-- The rest of a list, up to its end. -/
theorem readFrom_moreItems (level level' : Nat) (k : List Context) (before : List Json) (v : Json)
    (items : List JsonValue) (rest : List Char) :
    readFrom ⟨.behind v, .item before :: k⟩
        (moreItems level items ++ (newLine level' ++ ']' :: rest)) =
      readFrom ⟨.behind (.array (before ++ v :: items.map toJson)), k⟩ rest := by
  match items with
  | [] =>
    rw [moreItems, List.nil_append, readFrom_newLine]
    exact readFrom_mark rfl rfl
  | x :: items =>
    -- behind the comma what was read counts among the items before
    rw [moreItems]
    simp only [List.cons_append, List.append_assoc]
    rw [readFrom_mark rfl rfl, readFrom_newLine, readFrom_chars level _ x (ends_moreItems _ _ _ _),
      readFrom_moreItems level level' k (before ++ [v]) x.toJson items rest, List.append_assoc]
    rfl

/-- The rest of an object, up to its end. -/
theorem readFrom_moreFields (level level' : Nat) (k : List Context)
    (before : List (String × Json)) (key : String) (v : Json)
    (fields : List (String × JsonValue)) (rest : List Char) :
    readFrom ⟨.behind v, .member before key :: k⟩
        (moreFields level fields ++ (newLine level' ++ '\x7d' :: rest)) =
      readFrom ⟨.behind (.object
        (before ++ (key, v) :: fields.map fun f => (f.1, toJson f.2))), k⟩ rest := by
  match fields with
  | [] =>
    rw [moreFields, List.nil_append, readFrom_newLine]
    exact readFrom_mark rfl rfl
  | (key', x) :: fields =>
    rw [moreFields]
    simp only [List.cons_append, List.append_assoc, List.nil_append]
    rw [readFrom_mark rfl rfl, readFrom_newLine, readFrom_quoted rfl, readFrom_mark rfl rfl,
      readFrom_space, readFrom_chars level _ x (ends_moreFields _ _ _ _),
      readFrom_moreFields level level' k (before ++ [(key, v)]) key' x.toJson fields rest,
      List.append_assoc]
    rfl

end

/-- A document that is written down and read is its value. -/
theorem read?_write (v : JsonValue) : Json.read? v.write = some v.toJson := by
  have htext : v.write.toList = v.chars 0 := String.toList_ofList
  have hread := readFrom_chars 0 [] v ends_nil
  rw [List.append_nil] at hread
  rw [read?, htext, hread]
  rfl

-- the reader knows more of JSON than documents need, and refuses what is none
example : Json.read? "[2.5e3, null, \"\\ud83d\\ude00\"]" =
    some (.array [.decimal 25 2, .null, .text "😀"]) := by cbv

example : Json.read? "[1, ]" = none := by cbv

/-! ## ASCII -/

/-- All characters are in ASCII. -/
def Ascii (cs : List Char) : Prop := ∀ c ∈ cs, c.toNat < 128

@[simp] theorem ascii_nil : Ascii [] := by simp [Ascii]

@[simp] theorem ascii_cons {c : Char} {cs : List Char} :
    Ascii (c :: cs) ↔ c.toNat < 128 ∧ Ascii cs := List.forall_mem_cons

@[simp] theorem ascii_append {cs ds : List Char} : Ascii (cs ++ ds) ↔ Ascii cs ∧ Ascii ds :=
  List.forall_mem_append

theorem toNat_digitChar_lt : ∀ d < 16, (Nat.digitChar d).toNat < 128 := by decide

theorem ascii_escapeUnit (n : Nat) : Ascii (escapeUnit n) := by
  have hdigits : Ascii (Text.hexDigits 4 n) := by
    intro c hc
    obtain ⟨i, _, rfl⟩ := List.mem_map.mp hc
    exact toNat_digitChar_lt _ (Nat.mod_lt _ (by omega))
  simpa [escapeUnit] using hdigits

theorem ascii_escapeChar (c : Char) : Ascii (escapeChar c) := by
  have hunits : Ascii ((units c).flatMap escapeUnit) := by
    intro d hd
    obtain ⟨n, _, hdn⟩ := List.mem_flatMap.mp hd
    exact ascii_escapeUnit n d hdn
  unfold escapeChar
  -- seven characters have a letter of their own
  iterate 7 (split; · simp)
  split
  · rename_i h
    simp only [Bool.and_eq_true, decide_eq_true_eq] at h
    rw [ascii_cons]
    exact ⟨by omega, ascii_nil⟩
  · exact hunits

@[simp] theorem ascii_quoted (s : String) : Ascii (quoted s) := by
  have hbody : Ascii (s.toList.flatMap escapeChar) := by
    intro d hd
    obtain ⟨c, _, hdc⟩ := List.mem_flatMap.mp hd
    exact ascii_escapeChar c d hdc
  simpa [quoted] using hbody

@[simp] theorem ascii_newLine (level : Nat) : Ascii (newLine level) := by
  have hspaces : Ascii (List.replicate (2 * level) ' ') := by
    intro c hc
    rw [List.eq_of_mem_replicate hc]
    decide
  simpa [newLine] using hspaces

theorem ascii_toString (n : Int) : Ascii (toString n).toList := by
  intro c hc
  rcases isDigit_or_of_mem_toString hc with hdigit | rfl
  · exact (Char.isDigit_iff_toNat.mp hdigit).2.trans_lt (by decide)
  · decide

mutual

theorem ascii_chars (level : Nat) (v : JsonValue) : Ascii (chars level v) := by
  match v with
  | .text s => simp [chars]
  | .number n =>
    rw [chars]
    exact ascii_toString n
  | .array [] => simp [chars]
  | .array (x :: items) =>
    simp [chars, ascii_chars (level + 1) x, ascii_moreItems (level + 1) items]
  | .object [] => simp [chars]
  | .object ((key, x) :: fields) =>
    simp [chars, ascii_chars (level + 1) x, ascii_moreFields (level + 1) fields]

theorem ascii_moreItems (level : Nat) (items : List JsonValue) :
    Ascii (moreItems level items) := by
  match items with
  | [] => simp [moreItems]
  | x :: items => simp [moreItems, ascii_chars level x, ascii_moreItems level items]

theorem ascii_moreFields (level : Nat) (fields : List (String × JsonValue)) :
    Ascii (moreFields level fields) := by
  match fields with
  | [] => simp [moreFields]
  | (key, x) :: fields => simp [moreFields, ascii_chars level x, ascii_moreFields level fields]

end

theorem ascii_write (v : JsonValue) : Ascii v.write.toList := by
  rw [write, String.toList_ofList]
  exact ascii_chars 0 v

end JsonValue

namespace Report

/-! ## Reports -/

/-- What a report says of a function. -/
def functionJson (f : FunctionRecord) : Json :=
  .object
    [("name", .text f.name),
     ("start_line", .integer f.startLine),
     ("parameter_count", .integer f.parameterCount),
     ("cyclomatic_complexity", .integer f.cyclomaticComplexity),
     ("max_nesting_depth", .integer f.maxNestingDepth),
     ("max_conditions", .integer f.maxConditions),
     ("returns", .integer f.returns),
     ("max_message_chains", .integer f.maxMessageChains)]

/-- What a report says of a file without its functions. -/
def fileJson (f : FileRecord) : Json :=
  .object
    [("path", .text f.path),
     ("strings", .integer f.strings),
     ("package_complexity", .integer f.packageComplexity),
     ("all_conditions", .integer f.allConditions)]

/-- What a report says of a file. -/
def analysisJson (a : Analysis) : Json :=
  .object
    [("file", fileJson a.file),
     ("language", .text a.language),
     ("functions", .array (a.functions.values.map functionJson))]

theorem toJson_document (analyses : List Analysis) :
    (document analyses).toJson = .array (analyses.map analysisJson) := by
  have hfunction : ∀ f, (functionDocument f).toJson = functionJson f := by
    intro f
    simp [functionDocument, FunctionRecord.numbers, JsonValue.toJson, functionJson]
  have hfile : ∀ f, (fileDocument f).toJson = fileJson f := by
    intro f
    simp [fileDocument, FileRecord.counts, JsonValue.toJson, fileJson]
  have hanalysis : ∀ a, (analysisDocument a).toJson = analysisJson a := by
    intro a
    simp [analysisDocument, JsonValue.toJson, hfile, hfunction, analysisJson]
  simp [document, JsonValue.toJson, hanalysis]

/-- A report is written in ASCII, and read as JSON it says of every file, in order, all that was
computed for it. -/
theorem read?_json (analyses : List Analysis) :
    (∀ c ∈ (json analyses).toList, c.toNat < 128) ∧
    Json.read? (json analyses) = some (.array (analyses.map analysisJson)) := by
  rw [← toJson_document]
  exact ⟨JsonValue.ascii_write _, JsonValue.read?_write _⟩

end Report

end CodeMetrics
