import CodeMetrics.Text.Utf8

/-!
# Bytes that are text

Bytes are the encoding of a text just if they fall apart into sequences, each of
which is the encoding of one character.  What bytes a sequence can have is a
matter of its first two bytes; the search for faults goes by the same bounds.

* `Utf8.Sequence` — the bytes of one character: no overlong forms, no
  surrogates, nothing beyond the last code point (`Utf8.sequence_utf8EncodeChar`,
  `Utf8.Sequence.exists_char`);
* **faults** — a search passes over a sequence as a whole
  (`Utf8.faultFrom?_append`), so it finds a fault just where there is no text
  (`Utf8.firstFault?_eq_none_iff`), and with that bytes are decoded
  (`Utf8.decode_eq_ok_iff`, `Utf8.decode_eq_error_iff`);
* **line ends** — `Text.lineFeeds` replaces them one by one, which the running
  flag comes to as well (`Text.unifyLineEnds_eq`).
-/

namespace CodeMetrics

namespace Utf8

/-! ## Sequences -/

/-- The bytes of one character: as many as the first byte announces, each within its bounds. -/
inductive Sequence : List UInt8 → Prop
  | one {a : UInt8} (high : a < 0x80) : Sequence [a]
  | two {a b : UInt8} (low : 0xC2 ≤ a) (high : a < 0xE0) (second : isContinuation b) :
      Sequence [a, b]
  | three {a b c : UInt8} (low : 0xE0 ≤ a) (high : a < 0xF0) (second : followsThree a b)
      (third : isContinuation c) : Sequence [a, b, c]
  | four {a b c d : UInt8} (low : 0xF0 ≤ a) (high : a < 0xF5) (second : followsFour a b)
      (third : isContinuation c) (fourth : isContinuation d) : Sequence [a, b, c, d]

theorem isContinuation_iff {b : UInt8} :
    isContinuation b ↔ 0x80 ≤ b.toNat ∧ b.toNat < 0xC0 := by
  simp [isContinuation, UInt8.le_iff_toNat_le, UInt8.lt_iff_toNat_lt]

theorem followsThree_iff {a b : UInt8} :
    followsThree a b ↔ (0x80 ≤ b.toNat ∧ b.toNat < 0xC0) ∧
      (a.toNat = 0xE0 → 0xA0 ≤ b.toNat) ∧ (a.toNat = 0xED → b.toNat < 0xA0) := by
  simp [followsThree, isContinuation_iff, UInt8.le_iff_toNat_le, UInt8.lt_iff_toNat_lt,
    ← UInt8.toNat_inj]
  omega

theorem followsFour_iff {a b : UInt8} :
    followsFour a b ↔ (0x80 ≤ b.toNat ∧ b.toNat < 0xC0) ∧
      (a.toNat = 0xF0 → 0x90 ≤ b.toNat) ∧ (a.toNat = 0xF4 → b.toNat < 0x90) := by
  simp [followsFour, isContinuation_iff, UInt8.le_iff_toNat_le, UInt8.lt_iff_toNat_lt,
    ← UInt8.toNat_inj]
  omega

/-- A code point that a text can hold: no surrogate, and not beyond the last one. -/
def IsScalar (n : Nat) : Prop := n < 0xD800 ∨ 0xDFFF < n ∧ n < 0x110000

/-- The bytes of a code point: as few as can hold it, with six bits in each but the first. -/
def codeBytes (n : Nat) : List UInt8 :=
  if n ≤ 0x7F then [.ofNat n]
  else if n ≤ 0x7FF then [.ofNat (n / 64 % 0x20 + 0xC0), .ofNat (n % 0x40 + 0x80)]
  else if n ≤ 0xFFFF then
    [.ofNat (n / 4096 % 0x10 + 0xE0), .ofNat (n / 64 % 0x40 + 0x80), .ofNat (n % 0x40 + 0x80)]
  else
    [.ofNat (n / 262144 % 0x08 + 0xF0), .ofNat (n / 4096 % 0x40 + 0x80),
      .ofNat (n / 64 % 0x40 + 0x80), .ofNat (n % 0x40 + 0x80)]

theorem utf8EncodeChar_eq (c : Char) : String.utf8EncodeChar c = codeBytes c.toNat := rfl

/-- There is a character for every such code point. -/
theorem exists_utf8EncodeChar_eq {n : Nat} (h : IsScalar n) :
    ∃ c, String.utf8EncodeChar c = codeBytes n :=
  ⟨Char.ofNatAux n h, rfl⟩

theorem sequence_codeBytes {n : Nat} (h : IsScalar n) : Sequence (codeBytes n) := by
  unfold IsScalar at h
  unfold codeBytes
  split
  · refine .one ?_
    simp only [UInt8.lt_iff_toNat_lt, UInt8.toNat_ofNat', UInt8.reduceToNat]
    omega
  split
  · refine .two ?_ ?_ ?_ <;>
      simp only [isContinuation_iff, UInt8.le_iff_toNat_le, UInt8.lt_iff_toNat_lt,
        UInt8.toNat_ofNat', UInt8.reduceToNat] <;> omega
  split
  · refine .three ?_ ?_ ?_ ?_ <;>
      simp only [isContinuation_iff, followsThree_iff, UInt8.le_iff_toNat_le,
        UInt8.lt_iff_toNat_lt, UInt8.toNat_ofNat', UInt8.reduceToNat] <;> omega
  · refine .four ?_ ?_ ?_ ?_ ?_ <;>
      simp only [isContinuation_iff, followsFour_iff, UInt8.le_iff_toNat_le,
        UInt8.lt_iff_toNat_lt, UInt8.toNat_ofNat', UInt8.reduceToNat] <;> omega

/-- The encoding of a character is a sequence. -/
theorem sequence_utf8EncodeChar (c : Char) : Sequence (String.utf8EncodeChar c) := by
  rw [utf8EncodeChar_eq]
  exact sequence_codeBytes c.valid

theorem ofNat_eq {n : Nat} {a : UInt8} (h : n = a.toNat) : UInt8.ofNat n = a := by
  rw [h, UInt8.ofNat_toNat]

/-- The bits that the bytes of a sequence hold are a code point. -/
theorem Sequence.exists_code {q : List UInt8} (h : Sequence q) :
    ∃ n, IsScalar n ∧ codeBytes n = q := by
  unfold IsScalar
  cases h with
  | @one a high =>
    have ha : a.toNat < 0x80 := UInt8.lt_iff_toNat_lt.mp high
    refine ⟨a.toNat, by omega, ?_⟩
    rw [codeBytes, if_pos (by omega), UInt8.ofNat_toNat]
  | @two a b low high second =>
    have hlow : 0xC2 ≤ a.toNat := UInt8.le_iff_toNat_le.mp low
    have hhigh : a.toNat < 0xE0 := UInt8.lt_iff_toNat_lt.mp high
    have hb := isContinuation_iff.mp second
    obtain ⟨n, hn⟩ : ∃ n, n = (a.toNat - 0xC0) * 64 + (b.toNat - 0x80) := ⟨_, rfl⟩
    refine ⟨n, by omega, ?_⟩
    rw [codeBytes, if_neg (by omega), if_pos (by omega), ofNat_eq (a := a) (by omega),
      ofNat_eq (a := b) (by omega)]
  | @three a b c low high second third =>
    have hlow : 0xE0 ≤ a.toNat := UInt8.le_iff_toNat_le.mp low
    have hhigh : a.toNat < 0xF0 := UInt8.lt_iff_toNat_lt.mp high
    have hb := followsThree_iff.mp second
    have hc := isContinuation_iff.mp third
    obtain ⟨n, hn⟩ : ∃ n, n = (a.toNat - 0xE0) * 4096 + (b.toNat - 0x80) * 64 +
      (c.toNat - 0x80) := ⟨_, rfl⟩
    refine ⟨n, by omega, ?_⟩
    rw [codeBytes, if_neg (by omega), if_neg (by omega), if_pos (by omega),
      ofNat_eq (a := a) (by omega), ofNat_eq (a := b) (by omega), ofNat_eq (a := c) (by omega)]
  | @four a b c d low high second third fourth =>
    have hlow : 0xF0 ≤ a.toNat := UInt8.le_iff_toNat_le.mp low
    have hhigh : a.toNat < 0xF5 := UInt8.lt_iff_toNat_lt.mp high
    have hb := followsFour_iff.mp second
    have hc := isContinuation_iff.mp third
    have hd := isContinuation_iff.mp fourth
    obtain ⟨n, hn⟩ : ∃ n, n = (a.toNat - 0xF0) * 262144 + (b.toNat - 0x80) * 4096 +
      (c.toNat - 0x80) * 64 + (d.toNat - 0x80) := ⟨_, rfl⟩
    refine ⟨n, by omega, ?_⟩
    rw [codeBytes, if_neg (by omega), if_neg (by omega), if_neg (by omega),
      ofNat_eq (a := a) (by omega), ofNat_eq (a := b) (by omega), ofNat_eq (a := c) (by omega),
      ofNat_eq (a := d) (by omega)]

/-- Every sequence is the encoding of a character. -/
theorem Sequence.exists_char {q : List UInt8} (h : Sequence q) :
    ∃ c, String.utf8EncodeChar c = q := by
  obtain ⟨n, hscalar, rfl⟩ := h.exists_code
  exact exists_utf8EncodeChar_eq hscalar

/-! ## Faults -/

/-- The search passes over a sequence. -/
theorem faultFrom?_append {q : List UInt8} (h : Sequence q) (pos : Nat) (rest : List UInt8) :
    faultFrom? pos (q ++ rest) = faultFrom? (pos + q.length) rest := by
  cases h with
  | one high =>
    rw [List.singleton_append, faultFrom?.eq_def]
    simp [high]
  | @two a b low high second =>
    have hone : ¬ a < 0x80 := by grind
    have hstart : ¬ (a < 0xC2 ∨ 0xF5 ≤ a) := by grind
    rw [List.cons_append, List.cons_append, faultFrom?.eq_def]
    simp [hone, hstart, high, second]
  | @three a b c low high second third =>
    have hone : ¬ a < 0x80 := by grind
    have htwo : ¬ a < 0xE0 := by grind
    have hstart : ¬ (a < 0xC2 ∨ 0xF5 ≤ a) := by grind
    rw [List.cons_append, List.cons_append, List.cons_append, faultFrom?.eq_def]
    simp [hone, hstart, htwo, high, second, third]
  | @four a b c d low high second third fourth =>
    have hone : ¬ a < 0x80 := by grind
    have htwo : ¬ a < 0xE0 := by grind
    have hthree : ¬ a < 0xF0 := by grind
    have hstart : ¬ (a < 0xC2 ∨ 0xF5 ≤ a) := by grind
    rw [List.cons_append, List.cons_append, List.cons_append, List.cons_append,
      faultFrom?.eq_def]
    simp [hone, hstart, htwo, hthree, second, third, fourth]

theorem faultFrom?_encoding (pos : Nat) (cs : List Char) :
    faultFrom? pos (cs.flatMap String.utf8EncodeChar) = none := by
  induction cs generalizing pos with
  | nil => rfl
  | cons c rest ih => rw [List.flatMap_cons, faultFrom?_append (sequence_utf8EncodeChar c), ih]

/-- Bytes without a fault are the encoding of characters. -/
theorem exists_chars_of_faultFrom? {pos : Nat} {bs : List UInt8} (h : faultFrom? pos bs = none) :
    ∃ cs : List Char, cs.flatMap String.utf8EncodeChar = bs := by
  have hstep : ∀ {q rest : List UInt8}, Sequence q →
      (∃ cs : List Char, cs.flatMap String.utf8EncodeChar = rest) →
      ∃ cs : List Char, cs.flatMap String.utf8EncodeChar = q ++ rest := by
    rintro q rest hq ⟨cs, rfl⟩
    obtain ⟨c, rfl⟩ := hq.exists_char
    exact ⟨c :: cs, List.flatMap_cons⟩
  -- the search goes on in four cases, each of them behind a sequence
  fun_induction faultFrom? pos bs with
  | case1 => exact ⟨[], rfl⟩
  | case2 pos a rest hone ih => exact hstep (.one hone) (ih h)
  | case5 pos a hone hstart b rest htwo hsecond ih =>
    exact hstep (.two (by grind) htwo hsecond) (ih h)
  | case10 pos a hone hstart b htwo hsecond c rest hthird hthree ih =>
    exact hstep (.three (by grind) hthree (by grind) (by grind)) (ih h)
  | case12 pos a hone hstart b htwo hsecond c hthird hthree d rest hfourth ih =>
    exact hstep (.four (by grind) (by grind) (by grind) (by grind) hfourth) (ih h)
  | _ => cases h

theorem toList_eq (b : ByteArray) : b.toList = b.data.toList := by
  have hloop : ∀ i done, ByteArray.toList.loop b i done =
      done.reverse ++ b.data.toList.drop i := by
    intro i done
    fun_induction ByteArray.toList.loop b i done with
    | case1 i done h ih =>
      have hi : i < b.data.toList.length := by simpa using h
      rw [ih, List.drop_eq_getElem_cons hi]
      simp [ByteArray.get!, h]
    | case2 i done h =>
      rw [List.drop_eq_nil_of_le (by simpa using Nat.le_of_not_lt h), List.append_nil]
  rw [ByteArray.toList, hloop]
  rfl

theorem toList_utf8Encode (cs : List Char) :
    cs.utf8Encode.toList = cs.flatMap String.utf8EncodeChar := by
  rw [toList_eq, List.utf8Encode, List.data_toByteArray]

theorem toUTF8_eq_utf8Encode (s : String) : s.toUTF8 = s.toList.utf8Encode := by
  rw [← String.toByteArray_ofList, String.ofList_toList]
  rfl

/-- The search finds no fault just in the encoding of a text. -/
theorem firstFault?_eq_none_iff {b : ByteArray} :
    firstFault? b = none ↔ ∃ s : String, s.toUTF8 = b := by
  constructor
  · intro h
    obtain ⟨cs, hcs⟩ := exists_chars_of_faultFrom? h
    refine ⟨String.ofList cs, ?_⟩
    have hdata : cs.utf8Encode.data.toList = b.data.toList := by
      rw [← toList_eq, ← toList_eq, toList_utf8Encode, hcs]
    exact ByteArray.ext (Array.toList_inj.mp hdata)
  · rintro ⟨s, rfl⟩
    rw [firstFault?, toUTF8_eq_utf8Encode, toList_utf8Encode]
    exact faultFrom?_encoding 0 s.toList

/-- The first half of a pair of surrogates has the bits of a code point, but is no text. -/
example : firstFault? ⟨#[0x61, 0xED, 0xA0, 0x80]⟩ = some ⟨1, 1, 0xED, .continuationByte⟩ := by
  decide +kernel

theorem fromUTF8?_eq_some_iff {b : ByteArray} {s : String} :
    String.fromUTF8? b = some s ↔ s.toUTF8 = b := by
  unfold String.fromUTF8?
  constructor
  · intro h
    split at h
    · cases h
      rfl
    · cases h
  · rintro rfl
    exact dif_pos s.isValidUTF8

theorem decode_eq_ok_iff {b : ByteArray} {s : String} : decode b = .ok s ↔ s.toUTF8 = b := by
  rw [← fromUTF8?_eq_some_iff, decode]
  cases String.fromUTF8? b <;> simp

/-- Bytes that are no text are refused for their first fault. -/
theorem decode_eq_error_iff {b : ByteArray} {fault : Fault} :
    decode b = .error fault ↔ (∀ s : String, s.toUTF8 ≠ b) ∧ firstFault? b = some fault := by
  cases hdecode : String.fromUTF8? b with
  | some s =>
    have hs := fromUTF8?_eq_some_iff.mp hdecode
    rw [decode, hdecode]
    exact ⟨nofun, fun h => absurd hs (h.1 s)⟩
  | none =>
    have hno : ∀ s : String, s.toUTF8 ≠ b := by
      intro s hs
      rw [fromUTF8?_eq_some_iff.mpr hs] at hdecode
      cases hdecode
    rw [decode, hdecode]
    cases hfault : firstFault? b with
    | none =>
      obtain ⟨s, hs⟩ := firstFault?_eq_none_iff.mp hfault
      exact absurd hs (hno s)
    | some found =>
      rw [Option.getD_some, Except.error.injEq, Option.some.injEq]
      exact ⟨fun h => ⟨hno, h⟩, And.right⟩

end Utf8

/-! ## Line ends -/

namespace Text

/-- Every carriage return replaced by a line feed, together with the line feed behind it, if there
is one. -/
def lineFeeds : List Char → List Char
  | '\r' :: '\n' :: rest => '\n' :: lineFeeds rest
  | '\r' :: rest => '\n' :: lineFeeds rest
  | c :: rest => c :: lineFeeds rest
  | [] => []

/-- The characters that are left behind a carriage return. -/
def behindReturn : List Char → List Char
  | '\n' :: rest => rest
  | cs => cs

theorem lineFeeds_return (cs : List Char) :
    lineFeeds ('\r' :: cs) = '\n' :: lineFeeds (behindReturn cs) := by
  cases cs with
  | nil => rfl
  | cons c rest =>
    by_cases hc : c = '\n'
    · subst hc
      rfl
    · rw [behindReturn.eq_2 (c :: rest) (fun _ h => hc (List.cons.inj h).1), lineFeeds.eq_2]
      intro rest' h
      exact hc (List.cons.inj h).1

theorem lineFeeds_cons {c : Char} (hc : c ≠ '\r') (cs : List Char) :
    lineFeeds (c :: cs) = c :: lineFeeds cs := by
  rw [lineFeeds.eq_3]
  · rintro rest h -
    exact hc h
  · exact hc

/-- The flag stands for a line feed that is left out if it comes next. -/
theorem foldl_unifyStep (cs : List Char) (written : String) (flag : Bool) :
    (cs.foldl unifyStep (written, flag)).1.toList =
      written.toList ++ lineFeeds (if flag then behindReturn cs else cs) := by
  induction cs generalizing written flag with
  | nil => cases flag <;> simp [behindReturn, lineFeeds]
  | cons c rest ih =>
    rw [List.foldl_cons]
    by_cases hreturn : c = '\r'
    · subst hreturn
      have hstep : unifyStep (written, flag) '\r' = (written.push '\n', true) := rfl
      have hkept : (if flag then behindReturn ('\r' :: rest) else '\r' :: rest) =
          '\r' :: rest := by cases flag <;> rfl
      rw [hstep, ih, hkept, lineFeeds_return, if_pos rfl, String.toList_push, List.append_assoc]
      rfl
    by_cases hskipped : c = '\n' ∧ flag = true
    · obtain ⟨rfl, rfl⟩ := hskipped
      have hstep : unifyStep (written, true) '\n' = (written, false) := rfl
      rw [hstep, ih]
      rfl
    · have hstep : unifyStep (written, flag) c = (written.push c, false) := by
        unfold unifyStep
        rw [if_neg hreturn, if_neg (by simpa using hskipped)]
      have hkept : (if flag then behindReturn (c :: rest) else c :: rest) = c :: rest := by
        cases flag with
        | false => rfl
        | true =>
          have hfeed : c ≠ '\n' := fun h => hskipped ⟨h, rfl⟩
          exact behindReturn.eq_2 (c :: rest) fun _ h => hfeed (List.cons.inj h).1
      rw [hstep, ih, hkept, lineFeeds_cons hreturn, String.toList_push, List.append_assoc]
      rfl

/-- Line ends are unified as they are replaced one by one. -/
theorem unifyLineEnds_eq (s : String) : unifyLineEnds s = String.ofList (lineFeeds s.toList) := by
  rw [← String.toList_inj, String.toList_ofList, unifyLineEnds, foldl_unifyStep]
  rfl

/-- Without carriage returns there is nothing to replace. -/
theorem lineFeeds_eq_self {cs : List Char} (h : '\r' ∉ cs) : lineFeeds cs = cs := by
  induction cs with
  | nil => rfl
  | cons c rest ih =>
    rw [List.mem_cons, not_or] at h
    rw [lineFeeds_cons (Ne.symm h.1), ih h.2]

end Text

end CodeMetrics
