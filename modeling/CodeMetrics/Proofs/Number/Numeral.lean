import CodeMetrics.Number.Numeral
import Mathlib.Data.List.Basic
import Mathlib.Data.List.TakeWhile
import Mathlib.Data.Nat.Digits.Defs

/-!
# Whole numbers as people write them

A whole number can be written with underscores between its digits and with
blanks around them, and is read back as the number it is.

* `Numeral.Spread`, `Numeral.Spells` — digits with underscores between some of
  them, and with blanks around;
* **digits** — underscores leave no trace (`Numeral.Spread.digitRun_eq`);
* **numbers** — what spells the digits of a number is read as that number, as
  long as it has no more digits than are converted
  (`Numeral.readInt_of_spells`).
-/

namespace CodeMetrics

namespace Text

/-! ## Digits and blanks -/

/-- The zero of ASCII is the first of the zeros, so its digits are found first. -/
theorem digit?_of_isDigit {c : Char} (h : c.isDigit) : digit? c = some (c.toNat - '0'.toNat) := by
  have hzeros : zeros = '0'.toNat :: zeros.tail := rfl
  rw [digit?, hzeros, List.find?_cons_of_pos]
  · rfl
  · rw [Bool.and_eq_true, decide_eq_true_eq, decide_eq_true_eq]
    exact Char.isDigit_iff_toNat.mp h

theorem isBlank_of_isDigit {c : Char} (h : c.isDigit) : isBlank c = false := by
  obtain ⟨hlow, hhigh⟩ := Char.isDigit_iff_toNat.mp h
  have hlow : 48 ≤ c.toNat := hlow
  have hhigh : c.toNat ≤ 57 := hhigh
  simp [isBlank, blanks, CharSet.contains]
  omega

/-- Blanks are taken off up to the first character that is none. -/
theorem dropWhile_isBlank_append {blanks cs : List Char} (hblanks : ∀ c ∈ blanks, isBlank c)
    (hcs : ∀ c ∈ cs.head?, isBlank c = false) : (blanks ++ cs).dropWhile isBlank = cs := by
  rw [List.dropWhile_append_of_pos hblanks]
  cases cs with
  | nil => rfl
  | cons c rest => exact List.dropWhile_cons_of_neg (by simp [hcs c rfl])

theorem trimBlanks_of_surrounded {front cs back : List Char} (hfront : ∀ c ∈ front, isBlank c)
    (hback : ∀ c ∈ back, isBlank c) (hne : cs ≠ []) (hcs : ∀ c ∈ cs, isBlank c = false) :
    trimBlanks (front ++ (cs ++ back)) = cs := by
  have hstart : ∀ c ∈ (cs ++ back).head?, isBlank c = false := by
    intro c hc
    rw [List.head?_append_of_ne_nil _ hne] at hc
    exact hcs c (List.mem_of_head? hc)
  have hend : ∀ c ∈ cs.reverse.head?, isBlank c = false :=
    fun c hc => hcs c (List.mem_reverse.mp (List.mem_of_head? hc))
  have hback : ∀ c ∈ back.reverse, isBlank c := fun c hc => hback c (List.mem_reverse.mp hc)
  rw [trimBlanks, dropWhile_isBlank_append hfront hstart, List.reverse_append,
    dropWhile_isBlank_append hback hend, List.reverse_reverse]

end Text

namespace Numeral

/-! ## Numbers and their digits -/

theorem ofAscii_toDigits (n : Nat) : ofAscii (Nat.toDigits 10 n) = n := by
  rw [ofAscii, ofDigits, List.foldl_map]
  exact Nat.ofDigitChars_ten_toDigits

theorem isDigit_of_mem_toDigits {n : Nat} {c : Char} (h : c ∈ Nat.toDigits 10 n) : c.isDigit :=
  Nat.isDigit_of_mem_toDigits (by omega) (by omega) h

/-! ## Ways of writing digits -/

/-- Digits one after the other, with single underscores between some of them. -/
inductive Spread : List Char → List Char → Prop
  | last (d : Char) : Spread [d] [d]
  | next (d : Char) {ds cs : List Char} : Spread ds cs → Spread (d :: ds) (d :: cs)
  | gap (d : Char) {ds cs : List Char} : Spread ds cs → Spread (d :: ds) (d :: '_' :: cs)

/-- The text has the digits, with single underscores between some of them and blanks around. -/
def Spells (ds : List Char) (text : String) : Prop :=
  ∃ front cs back, (∀ c ∈ front, Text.isBlank c) ∧ (∀ c ∈ back, Text.isBlank c) ∧
    Spread ds cs ∧ text.toList = front ++ (cs ++ back)

theorem spread_self {ds : List Char} (h : ds ≠ []) : Spread ds ds := by
  induction ds with
  | nil => exact absurd rfl h
  | cons d rest ih =>
    cases rest with
    | nil => exact .last d
    | cons e rest => exact .next d (ih (List.cons_ne_nil e rest))

/-- Digits alone are a way of writing them. -/
theorem spells_self {text : String} (h : text.toList ≠ []) : Spells text.toList text :=
  ⟨[], text.toList, [], by simp, by simp, spread_self h, by simp⟩

namespace Spread

variable {ds cs : List Char}

/-- The first digit comes first. -/
theorem exists_eq_cons (h : Spread ds cs) : ∃ d, d ∈ ds ∧ ∃ rest, cs = d :: rest := by
  cases h with
  | last d => exact ⟨d, List.mem_cons_self, _, rfl⟩
  | next d _ => exact ⟨d, List.mem_cons_self, _, rfl⟩
  | gap d _ => exact ⟨d, List.mem_cons_self, _, rfl⟩

theorem mem_or_eq (h : Spread ds cs) {c : Char} (hc : c ∈ cs) : c ∈ ds ∨ c = '_' := by
  induction h with
  | last d => exact .inl hc
  | next d _ ih =>
    rcases List.mem_cons.mp hc with rfl | hc
    · exact .inl List.mem_cons_self
    · exact (ih hc).imp_left (List.mem_cons_of_mem d)
  | gap d _ ih =>
    rcases List.mem_cons.mp hc with rfl | hc
    · exact .inl List.mem_cons_self
    · rcases List.mem_cons.mp hc with rfl | hc
      · exact .inr rfl
      · exact (ih hc).imp_left (List.mem_cons_of_mem d)

/-- Underscores leave no trace in the digits that are read. -/
theorem digitRun_eq (h : Spread ds cs) (hds : ∀ d ∈ ds, d.isDigit) :
    digitRun cs = some (ds.map (fun d => d.toNat - '0'.toNat)) := by
  induction h with
  | last d => rw [digitRun, Text.digit?_of_isDigit (hds d List.mem_cons_self)]; rfl
  | next d hrest ih =>
    obtain ⟨hd, hds⟩ := List.forall_mem_cons.mp hds
    -- what follows the digit is another one, and no underscore
    obtain ⟨e, he, rest, rfl⟩ := hrest.exists_eq_cons
    have hne : e ≠ '_' := by
      rintro rfl
      exact absurd (hds _ he) (by decide)
    rw [digitRun, Text.digit?_of_isDigit hd, ih hds]
    · rfl
    · simp
    · intro rest h
      exact hne (List.cons.inj h).1
  | gap d _ ih =>
    obtain ⟨hd, hds⟩ := List.forall_mem_cons.mp hds
    rw [digitRun, Text.digit?_of_isDigit hd, ih hds]
    rfl

end Spread

/-! ## Reading -/

theorem takeSign_of_isDigit {c : Char} (h : c.isDigit) (rest : List Char) :
    takeSign (c :: rest) = (false, c :: rest) := by
  unfold takeSign
  split
  · rename_i heq
    cases heq
    exact absurd h (by decide)
  · rename_i heq
    cases heq
    exact absurd h (by decide)
  · rfl

/-- However the digits of a number are written, the number is read. -/
theorem readInt_of_spells {n : Nat} (hn : n < 10 ^ maxDigits) {text : String}
    (h : Spells (Nat.toDigits 10 n) text) : readInt text = .ok (n : Int) := by
  obtain ⟨front, cs, back, hfront, hback, hspread, htext⟩ := h
  have hdigits : ∀ d ∈ Nat.toDigits 10 n, d.isDigit := fun d hd => isDigit_of_mem_toDigits hd
  obtain ⟨first, hfirst, rest, hcons⟩ := hspread.exists_eq_cons
  have hblank : ∀ c ∈ cs, Text.isBlank c = false := by
    intro c hc
    rcases hspread.mem_or_eq hc with hd | rfl
    · exact Text.isBlank_of_isDigit (hdigits c hd)
    · decide
  have hnumeral : ∀ c ∈ cs, isNumeralChar c = true := by
    intro c hc
    rcases hspread.mem_or_eq hc with hd | rfl
    · simp [isNumeralChar, Text.digit?_of_isDigit (hdigits c hd)]
    · rfl
  have htrim : Text.trimBlanks text.toList = cs := by
    rw [htext]
    exact Text.trimBlanks_of_surrounded hfront hback (by simp [hcons]) hblank
  have hsign : takeSign cs = (false, cs) := by
    rw [hcons]
    exact takeSign_of_isDigit (hdigits first hfirst) rest
  have hlength : (Nat.toDigits 10 n).length ≤ maxDigits :=
    Nat.toDigits_length 10 n maxDigits (by decide) hn
  have hvalue : ofDigits ((Nat.toDigits 10 n).map (fun d => d.toNat - '0'.toNat)) = n :=
    ofAscii_toDigits n
  rw [readInt, htrim, hsign]
  dsimp only
  rw [List.takeWhile_eq_self_iff.mpr hnumeral, List.dropWhile_eq_nil_iff.mpr hnumeral,
    hspread.digitRun_eq hdigits]
  dsimp only
  rw [List.length_map, if_neg (by omega), hvalue]
  rfl

/-- Other blanks than spaces, and underscores between some of the digits. -/
example : readInt "\t\u30001_00_0\n" = .ok 1000 := by decide

end Numeral

end CodeMetrics
