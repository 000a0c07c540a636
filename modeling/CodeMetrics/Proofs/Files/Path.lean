import CodeMetrics.Language

/-!
# Paths read and written

A text is read as a path in normal form, and the written form of such a path is
read as the path again.  So nothing is lost by a second reading of a path that
was read, whatever slashes and dots the text had.

* `Path.Normal` — no more than two slashes, then names without slashes
  (`Path.normal_ofString`);
* `Path.ofString_text` — a normal path is read back from its written form.
-/

namespace CodeMetrics.Path

/-- What every path is like that has been read: the slashes that count, then names that lead
somewhere. -/
structure Normal (p : Path) : Prop where
  slashes_le : p.slashes ≤ 2
  leads : ∀ n ∈ p.names, isName n.toList
  noSlash : ∀ n ∈ p.names, '/' ∉ n.toList

/-! ## Reading -/

theorem leadingSlashes_le (cs : List Char) : leadingSlashes cs ≤ 2 := by
  unfold leadingSlashes
  split <;> omega

/-- A piece between slashes has none in it. -/
theorem not_mem_of_mem_splitOn {c : Char} {cs piece : List Char} (h : piece ∈ cs.splitOn c) :
    c ∉ piece := by
  induction cs generalizing piece with
  | nil =>
    rw [List.splitOn_nil, List.mem_singleton] at h
    rw [h]
    exact List.not_mem_nil
  | cons d rest ih =>
    rw [List.splitOn_cons_eq_if_modifyHead] at h
    split at h
    · rcases List.mem_cons.mp h with rfl | hrest
      · exact List.not_mem_nil
      · exact ih hrest
    · rename_i hd
      have hne : ¬ d = c := fun hdc => hd (beq_iff_eq.mpr hdc)
      -- the character goes in front of the first piece of the rest
      cases hrest : rest.splitOn c with
      | nil => exact absurd hrest (List.splitOn_ne_nil c rest)
      | cons first others =>
        rw [hrest, List.modifyHead_cons] at h
        rcases List.mem_cons.mp h with rfl | hother
        · have hfirst : c ∉ first := ih (hrest ▸ List.mem_cons_self)
          rw [List.mem_cons, not_or]
          exact ⟨Ne.symm hne, hfirst⟩
        · exact ih (hrest ▸ List.mem_cons_of_mem _ hother)

/-- A text is read as a normal path. -/
theorem normal_ofString (s : String) : (ofString s).Normal := by
  have hnames : ∀ n ∈ (ofString s).names, isName n.toList ∧ '/' ∉ n.toList := by
    intro n hn
    obtain ⟨piece, hpiece, rfl⟩ := List.mem_map.mp hn
    obtain ⟨hmem, hname⟩ := List.mem_filter.mp hpiece
    rw [String.toList_ofList]
    exact ⟨hname, not_mem_of_mem_splitOn hmem⟩
  exact ⟨leadingSlashes_le s.toList, fun n hn => (hnames n hn).1, fun n hn => (hnames n hn).2⟩

/-! ## Writing -/

/-- The names of a text: what is left of the pieces between slashes. -/
def nameParts (cs : List Char) : List (List Char) := (cs.splitOn '/').filter isName

theorem ofString_ofList (cs : List Char) :
    ofString (String.ofList cs) = ⟨leadingSlashes cs, (nameParts cs).map String.ofList⟩ := by
  rw [ofString, String.toList_ofList]
  rfl

/-- Slashes in front add no name. -/
theorem nameParts_replicate_append (k : Nat) (cs : List Char) :
    nameParts (List.replicate k '/' ++ cs) = nameParts cs := by
  induction k with
  | zero => rfl
  | succ k ih =>
    rw [List.replicate_succ, List.cons_append, nameParts, List.splitOn_cons_eq_if_modifyHead,
      if_pos (beq_self_eq_true '/')]
    exact ih

/-- The names of a path with slashes between them. -/
def joined (p : Path) : List Char := ['/'].intercalate (p.names.map String.toList)

/-- Names behind one another are told apart. -/
theorem Normal.nameParts_joined {p : Path} (h : p.Normal) :
    nameParts p.joined = p.names.map String.toList := by
  unfold nameParts joined
  by_cases hnames : p.names = []
  · rw [hnames]
    rfl
  · have hslash : ∀ l ∈ p.names.map String.toList, '/' ∉ l := by
      intro l hl
      obtain ⟨n, hn, rfl⟩ := List.mem_map.mp hl
      exact h.noSlash n hn
    have hname : ∀ l ∈ p.names.map String.toList, isName l := by
      intro l hl
      obtain ⟨n, hn, rfl⟩ := List.mem_map.mp hl
      exact h.leads n hn
    have hne : p.names.map String.toList ≠ [] := by simpa using hnames
    rw [List.splitOn_intercalate '/' hslash hne, List.filter_eq_self.mpr hname]

/-- The first name starts with no slash. -/
theorem Normal.takeWhile_joined {p : Path} (h : p.Normal) :
    p.joined.takeWhile (· = '/') = [] := by
  unfold joined
  cases hnames : p.names with
  | nil => rfl
  | cons n rest =>
    have hmem : n ∈ p.names := hnames ▸ List.mem_cons_self
    have hname := h.leads n hmem
    have hslash := h.noSlash n hmem
    cases hn : n.toList with
    | nil =>
      rw [hn] at hname
      cases hname
    | cons c cs =>
      have hc : ¬ c = '/' := by
        rintro rfl
        exact hslash (hn ▸ List.mem_cons_self)
      cases rest <;> simp [hn, hc, List.intercalate]

/-- As many slashes as count are kept. -/
theorem Normal.leadingSlashes_append {p : Path} (h : p.Normal) :
    leadingSlashes (List.replicate p.slashes '/' ++ p.joined) = p.slashes := by
  have hcount : ((List.replicate p.slashes '/' ++ p.joined).takeWhile (· = '/')).length =
      p.slashes := by
    rw [List.takeWhile_append_of_pos (by simp), h.takeWhile_joined, List.append_nil,
      List.length_replicate]
  unfold leadingSlashes
  rw [hcount]
  match p.slashes, h.slashes_le with
  | 0, _ => rfl
  | 1, _ => rfl
  | 2, _ => rfl

theorem text_eq {p : Path} (h : ¬ (p.slashes = 0 ∧ p.names = [])) :
    p.text = String.ofList (List.replicate p.slashes '/' ++ p.joined) := by
  rw [text, if_neg (by simpa using h), String.ofList_append, joined, ← String.toList_inj]
  simp

/-- A normal path is read back from its written form. -/
theorem ofString_text {p : Path} (h : p.Normal) : ofString p.text = p := by
  by_cases hhere : p.slashes = 0 ∧ p.names = []
  · -- the path to where one stands is written as a dot
    obtain ⟨slashes, names⟩ := p
    obtain ⟨rfl, rfl⟩ := hhere
    rfl
  · have hnames : (nameParts (List.replicate p.slashes '/' ++ p.joined)).map String.ofList =
        p.names := by
      rw [nameParts_replicate_append, h.nameParts_joined, List.map_map]
      simp [Function.comp_def]
    rw [text_eq hhere, ofString_ofList, h.leadingSlashes_append, hnames]

/-- A name by itself is read as the path to it. -/
theorem ofString_of_name {name : String} (hname : isName name.toList)
    (hslash : '/' ∉ name.toList) : ofString name = ⟨0, [name]⟩ := by
  have hnormal : (Path.mk 0 [name]).Normal :=
    ⟨Nat.zero_le 2, by simpa using hname, by simpa using hslash⟩
  have htext : (Path.mk 0 [name]).text = name := String.empty_append
  rw [← ofString_text hnormal, htext]

/-! ## Endings -/

/-- What is behind the last dot is the ending, unless the dot comes first or last. -/
theorem suffixOf_ofList {front ending : List Char} (hfront : front ≠ []) (hending : ending ≠ [])
    (hdot : '.' ∉ ending) :
    suffixOf (String.ofList (front ++ '.' :: ending)) = String.ofList ('.' :: ending) := by
  have hback : (front ++ '.' :: ending).reverse = ending.reverse ++ '.' :: front.reverse := by
    simp
  have hkept : ∀ c ∈ ending.reverse, decide (c ≠ '.') = true := by
    intro c hc
    have hmem : c ∈ ending := List.mem_reverse.mp hc
    exact decide_eq_true (ne_of_mem_of_not_mem hmem hdot)
  have htake : (ending.reverse ++ '.' :: front.reverse).takeWhile (· ≠ '.') = ending.reverse := by
    rw [List.takeWhile_append_of_pos hkept]
    simp
  have hdrop : (ending.reverse ++ '.' :: front.reverse).dropWhile (· ≠ '.') =
      '.' :: front.reverse := by
    rw [List.dropWhile_append_of_pos hkept]
    simp
  unfold suffixOf
  rw [String.toList_ofList, hback]
  dsimp only
  rw [htake, hdrop]
  simp [hfront, hending]

end CodeMetrics.Path
