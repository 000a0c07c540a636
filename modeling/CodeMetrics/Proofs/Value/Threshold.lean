import CodeMetrics.Value.Basic

/-!
# Quantities as thresholds

A whole number that is above a quantity stays above it when it grows
(`Quantity.ltInt_mono`), whatever sort the quantity is of.  So the highest of
some numbers is above it just if one of them is (`Quantity.ltInt_highest`).
-/

namespace CodeMetrics

theorem Binary64.ltInt_mono {x : Binary64} {m n : Int} (h : m ≤ n) (hm : x.ltInt m = true) :
    x.ltInt n = true := by
  cases x with
  | nan => exact hm
  | infinite negative => exact hm
  | finite negative mantissa e =>
    unfold ltInt at hm ⊢
    dsimp only at hm ⊢
    split at hm
    · rename_i he
      rw [if_pos he, decide_eq_true_iff]
      exact Int.lt_of_lt_of_le (of_decide_eq_true hm) h
    · rename_i he
      rw [if_neg he, decide_eq_true_iff]
      exact Int.lt_of_lt_of_le (of_decide_eq_true hm)
        (Int.mul_le_mul_of_nonneg_right h (Int.natCast_nonneg _))

/-- The highest of some numbers, and zero if there are none. -/
def highest : List Int → Int
  | [] => 0
  | first :: rest => rest.foldl max first

namespace Quantity

variable {q : Quantity}

theorem ltInt_mono {m n : Int} (h : m ≤ n) (hm : q.ltInt m = true) : q.ltInt n = true := by
  cases q with
  | bool b => exact decide_eq_true (Int.lt_of_lt_of_le (of_decide_eq_true hm) h)
  | int k => exact decide_eq_true (Int.lt_of_lt_of_le (of_decide_eq_true hm) h)
  | float x => exact Binary64.ltInt_mono h hm

theorem ltInt_eq_false_of_le {m n : Int} (h : m ≤ n) (hn : q.ltInt n = false) :
    q.ltInt m = false := by
  rw [← Bool.not_eq_true] at hn ⊢
  exact fun hm => hn (ltInt_mono h hm)

theorem ltInt_max (q : Quantity) (m n : Int) : q.ltInt (max m n) = (q.ltInt m || q.ltInt n) := by
  rw [Bool.eq_iff_iff, Bool.or_eq_true]
  constructor
  · intro h
    rcases Int.le_total m n with hle | hle
    · rw [Int.max_eq_right hle] at h
      exact .inr h
    · rw [Int.max_eq_left hle] at h
      exact .inl h
  · rintro (h | h)
    · exact ltInt_mono (Int.le_max_left m n) h
    · exact ltInt_mono (Int.le_max_right m n) h

theorem ltInt_foldl_max (q : Quantity) (ns : List Int) (m : Int) :
    q.ltInt (ns.foldl max m) = (q.ltInt m || ns.any q.ltInt) := by
  induction ns generalizing m with
  | nil => simp
  | cons n rest ih => rw [List.foldl_cons, ih, ltInt_max, List.any_cons, Bool.or_assoc]

/-- The highest of some numbers is above a quantity just if one of them is; the zero that stands for
no numbers must not be. -/
theorem ltInt_highest (hzero : q.ltInt 0 = false) (ns : List Int) :
    q.ltInt (highest ns) = ns.any q.ltInt := by
  cases ns with
  | nil => exact hzero
  | cons first rest => exact ltInt_foldl_max q rest first

end Quantity

end CodeMetrics
