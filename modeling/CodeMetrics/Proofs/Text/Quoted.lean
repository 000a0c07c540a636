import CodeMetrics.Text.Quoted

/-!
# Texts that are quoted as they stand

* `Text.isPlain` — characters that need no escape;
* `Text.quote_of_isPlain` — a text of such characters is quoted by two marks
  around it.
-/

namespace CodeMetrics.Text

/-- Whether the character is one of ASCII that shows, and neither ends a quote nor starts an
escape. -/
def isPlain (c : Char) : Bool := 0x20 ≤ c.toNat && c.toNat < 0x7f && c != '\'' && c != '\\'

theorem isPlain_iff {c : Char} :
    isPlain c = true ↔ 0x20 ≤ c.toNat ∧ c.toNat < 0x7f ∧ c ≠ '\'' ∧ c ≠ '\\' := by
  simp [isPlain, and_assoc]

/-- No range of characters that do not show reaches into the plain ones. -/
theorem isPrintable_of_isPlain {c : Char} (h : isPlain c = true) : isPrintable c = true := by
  obtain ⟨hlow, hhigh, -, -⟩ := isPlain_iff.mp h
  have hranges : unprintable.ranges.all (fun r => r.2 < 0x20 || 0x7f ≤ r.1) = true := by
    decide +kernel
  rw [isPrintable, Bool.not_eq_true', CharSet.contains, List.any_eq_false]
  intro r hr
  have hr := List.all_eq_true.mp hranges r hr
  simp only [Bool.or_eq_true, Bool.and_eq_true, decide_eq_true_eq] at hr ⊢
  omega

theorem quoteChar_of_isPlain {c : Char} (h : isPlain c = true) : quoteChar '\'' c = c.toString := by
  obtain ⟨hlow, -, hmark, hescape⟩ := isPlain_iff.mp h
  have hcontrol (d : Char) (hd : d.toNat < 0x20) : c ≠ d := by
    rintro rfl
    omega
  rw [quoteChar, if_neg (by simp [hmark, hescape]), if_neg (hcontrol '\n' (by decide)),
    if_neg (hcontrol '\r' (by decide)), if_neg (hcontrol '\t' (by decide)),
    if_pos (isPrintable_of_isPlain h)]

/-- A text of plain characters is quoted as it stands. -/
theorem quote_of_isPlain {s : String} (h : s.toList.all isPlain = true) :
    quote s = "'" ++ s ++ "'" := by
  rw [List.all_eq_true] at h
  have hmark : quoteMark s = '\'' := by
    have hnone : '\'' ∉ s.toList := fun hmem => (isPlain_iff.mp (h _ hmem)).2.2.1 rfl
    simp [quoteMark, hnone]
  have hbody : String.join (s.toList.map (quoteChar '\'')) = s := by
    rw [List.map_congr_left fun c hc => quoteChar_of_isPlain (h c hc)]
    apply String.toList_injective
    rw [String.toList_join, List.flatMap_map]
    simp
  rw [quote, hmark, hbody]
  rfl

end CodeMetrics.Text
