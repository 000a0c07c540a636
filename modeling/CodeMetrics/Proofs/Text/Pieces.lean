import Mathlib

/-!
# Texts put together from pieces

Pieces with a separator between them can be told apart again where no piece has
the separator in it.

* `Text.pieces` — a text cut at a character (`Text.pieces_intercalate`);
* `Text.intercalate_flatMap` — pieces that are themselves put together from pieces;
* `Text.eq_of_append_cons_eq` — two parts with the last separator between them;
* `Text.not_mem_repr` — the characters that a written whole number does not have.
-/

namespace CodeMetrics.Text

/-- A text cut at every occurrence of a character. -/
def pieces (c : Char) (s : String) : List String := (s.toList.splitOn c).map String.ofList

/-- Pieces without the separator in them are found again. -/
theorem pieces_intercalate {c : Char} {separator : String} (hseparator : separator.toList = [c])
    {ls : List String} (hne : ls ≠ []) (hls : ∀ l ∈ ls, c ∉ l.toList) :
    pieces c (separator.intercalate ls) = ls := by
  have hchars : ∀ l ∈ ls.map String.toList, c ∉ l := by simpa using hls
  have hnonempty : ls.map String.toList ≠ [] := by simpa using hne
  rw [pieces, String.toList_intercalate, hseparator, List.splitOn_intercalate c hchars hnonempty,
    List.map_map]
  simp [Function.comp_def]

/-- A character that neither the separator nor a piece has is not in the text. -/
theorem not_mem_intercalate {c : Char} {separator : String} (hseparator : c ∉ separator.toList)
    {ls : List String} (hls : ∀ l ∈ ls, c ∉ l.toList) :
    c ∉ (separator.intercalate ls).toList := by
  induction ls with
  | nil => simp
  | cons l rest ih =>
    have hfirst : c ∉ l.toList := hls l List.mem_cons_self
    have hrest : c ∉ (separator.intercalate rest).toList :=
      ih (fun l hl => hls l (List.mem_cons_of_mem _ hl))
    cases rest with
    | nil => simpa using hfirst
    | cons m rest =>
      rw [String.intercalate_cons_cons, String.toList_append, String.toList_append,
        List.mem_append, List.mem_append]
      rintro ((hc | hc) | hc)
      · exact hfirst hc
      · exact hseparator hc
      · exact hrest hc

/-- So the text tells the pieces. -/
theorem eq_of_intercalate_eq {c : Char} {separator : String} (hseparator : separator.toList = [c])
    {ls ms : List String} (hlne : ls ≠ []) (hmne : ms ≠ []) (hls : ∀ l ∈ ls, c ∉ l.toList)
    (hms : ∀ m ∈ ms, c ∉ m.toList) (h : separator.intercalate ls = separator.intercalate ms) :
    ls = ms := by
  rw [← pieces_intercalate hseparator hlne hls, h, pieces_intercalate hseparator hmne hms]

/-- Pieces that are put together with the same separator are no pieces of their own. -/
theorem intercalate_flatMap {α : Type} (separator : String) {f : α → List String}
    (hf : ∀ a, f a ≠ []) (as : List α) :
    separator.intercalate (as.flatMap f) =
      separator.intercalate (as.map (fun a => separator.intercalate (f a))) := by
  induction as with
  | nil => rfl
  | cons a rest ih =>
    cases rest with
    | nil => simp
    | cons b rest =>
      have hrest : (b :: rest).flatMap f ≠ [] := by simp [hf b]
      have hmap : (b :: rest).map (fun a => separator.intercalate (f a)) ≠ [] := by simp
      rw [List.flatMap_cons, String.intercalate_append_of_ne_nil (hf a) hrest, ih]
      exact (String.intercalate_cons_of_ne_nil hmap).symm

/-- Where the second part does not have the separator, the text tells both parts. -/
theorem eq_of_append_cons_eq {c : Char} {front front' back back' : List Char} (hback : c ∉ back)
    (hback' : c ∉ back') (h : front ++ c :: back = front' ++ c :: back') :
    front = front' ∧ back = back' := by
  -- if one front were longer, the other back would have its separator in it
  rcases List.append_eq_append_iff.mp h with ⟨between, hfront, hcut⟩ | ⟨between, hfront, hcut⟩
  · cases between with
    | nil => exact ⟨by simpa using hfront.symm, by simpa using hcut⟩
    | cons d between =>
      obtain ⟨-, rfl⟩ := List.cons.inj hcut
      simp at hback
  · cases between with
    | nil => exact ⟨by simpa using hfront, by simpa using hcut.symm⟩
    | cons d between =>
      obtain ⟨-, rfl⟩ := List.cons.inj hcut
      simp at hback'

/-- A whole number is written with digits behind a sign, if it has one. -/
theorem not_mem_repr {c : Char} (hdigit : c.isDigit = false) (hsign : c ≠ '-') (n : Int) :
    c ∉ n.repr.toList := by
  have hdigits : ∀ m : Nat, c ∉ m.repr.toList := by
    intro m hc
    rw [Nat.toList_repr] at hc
    rw [Nat.isDigit_of_mem_toDigits (by decide) (by decide) hc] at hdigit
    cases hdigit
  cases n with
  | ofNat m => exact hdigits m
  | negSucc m =>
    show c ∉ ("-" ++ m.succ.repr).toList
    rw [String.toList_append, List.mem_append]
    rintro (hc | hc)
    · exact hsign (by simpa using hc)
    · exact hdigits m.succ hc

end CodeMetrics.Text
