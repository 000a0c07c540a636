import CodeMetrics.Number.Binary64
import Mathlib

/-!
# Where numbers overflow

The nearest number to a ratio is beyond the format just if the ratio is at
least `2 ^ 1024 - 2 ^ 970`, which lies half a unit above the greatest number.
Comparisons are made between rationals.

* `Binary64.exponentOf_le_iff` — the exponent of a ratio, by its size;
* `Binary64.divideToEven_eq_iff` — when a quotient is rounded up to a full mantissa;
* `Binary64.isFinite_ofRatio_iff` — when the nearest number is finite;
* `Binary64.isFinite_scaleUp_iff` — when a multiple by a power of two is.
-/

namespace CodeMetrics.Binary64

/-- Whether a number is none of those beyond all numbers. -/
def isFinite : Binary64 → Bool
  | finite _ _ _ => true
  | _ => false

/-! ## Ratios -/

/-- A ratio without its powers of two. -/
theorem scaleBy_ratio (num den : Nat) (e : Int) :
    ((scaleBy num den e).1 : ℚ) / (scaleBy num den e).2 = num / den / 2 ^ e := by
  unfold scaleBy
  split
  · rename_i he
    obtain ⟨k, rfl⟩ := Int.eq_ofNat_of_zero_le he
    simp [div_div]
  · rename_i he
    obtain ⟨k, hk⟩ := Int.eq_ofNat_of_zero_le (show 0 ≤ -e by omega)
    obtain rfl : e = -k := by omega
    simp [div_eq_mul_inv, mul_right_comm]

theorem scaleBy_natCast (num den k : Nat) : scaleBy num den k = (num, den * 2 ^ k) :=
  if_pos (Int.natCast_nonneg k)

theorem scaleBy_den_pos {den : Nat} (hden : 0 < den) (num : Nat) (e : Int) :
    0 < (scaleBy num den e).2 := by
  unfold scaleBy
  split
  · exact Nat.mul_pos hden (Nat.pow_pos (by decide))
  · exact hden

/-- A ratio lies between the powers of two that the lengths of its parts tell. -/
theorem ratio_between {num den : Nat} (hnum : num ≠ 0) (hden : den ≠ 0) :
    (2 : ℚ) ^ ((num.log2 : Int) - den.log2 - 1) < num / den ∧
      (num / den : ℚ) < 2 ^ ((num.log2 : Int) - den.log2 + 1) := by
  have hpos : (0 : ℚ) < den := by exact_mod_cast Nat.pos_of_ne_zero hden
  have hnumLow : (2 : ℚ) ^ num.log2 ≤ num := by exact_mod_cast Nat.log2_self_le hnum
  have hnumHigh : (num : ℚ) < 2 ^ (num.log2 + 1) := by exact_mod_cast Nat.lt_log2_self
  have hdenLow : (2 : ℚ) ^ den.log2 ≤ den := by exact_mod_cast Nat.log2_self_le hden
  have hdenHigh : (den : ℚ) < 2 ^ (den.log2 + 1) := by exact_mod_cast Nat.lt_log2_self
  constructor
  · rw [lt_div_iff₀ hpos]
    calc (2 : ℚ) ^ ((num.log2 : Int) - den.log2 - 1) * den
        < 2 ^ ((num.log2 : Int) - den.log2 - 1) * 2 ^ (den.log2 + 1) :=
          mul_lt_mul_of_pos_left hdenHigh (by positivity)
      _ = 2 ^ num.log2 := by
          rw [← zpow_natCast, ← zpow_natCast, ← zpow_add₀ two_ne_zero]
          congr 1
          push_cast
          omega
      _ ≤ num := hnumLow
  · rw [div_lt_iff₀ hpos]
    calc (num : ℚ) < 2 ^ (num.log2 + 1) := hnumHigh
      _ = 2 ^ ((num.log2 : Int) - den.log2 + 1) * 2 ^ den.log2 := by
          rw [← zpow_natCast, ← zpow_natCast, ← zpow_add₀ two_ne_zero]
          congr 1
          push_cast
          omega
      _ ≤ 2 ^ ((num.log2 : Int) - den.log2 + 1) * den :=
          mul_le_mul_of_nonneg_left hdenLow (by positivity)

/-- A ratio is below a power of two, on the scale of another one. -/
theorem scaleBy_lt_iff {num den : Nat} (hden : 0 < den) (e : Int) (k : Nat) :
    (scaleBy num den e).1 < (scaleBy num den e).2 * 2 ^ k ↔ (num / den : ℚ) < 2 ^ (e + k) := by
  have hpos : (0 : ℚ) < (scaleBy num den e).2 := by exact_mod_cast scaleBy_den_pos hden num e
  rw [zpow_add₀ two_ne_zero, zpow_natCast, ← div_lt_iff₀' (by positivity), ← scaleBy_ratio,
    div_lt_iff₀' hpos]
  exact_mod_cast Iff.rfl

/-! ## Exponents -/

/-- The exponent at which a ratio has a mantissa of full length is told by its size. -/
theorem le_iff_lt_of_binade {q : ℚ} {e k : Int} (hfrom : (2 : ℚ) ^ (e + 52) ≤ q)
    (hto : q < 2 ^ (e + 53)) : e ≤ k ↔ q < 2 ^ (k + 53) := by
  constructor
  · intro hle
    have hek : e + 53 ≤ k + 53 := by omega
    exact lt_of_lt_of_le hto (zpow_le_zpow_right₀ one_le_two hek)
  · intro hlt
    have hek : e + 52 < k + 53 :=
      (zpow_lt_zpow_iff_right₀ one_lt_two).mp (lt_of_le_of_lt hfrom hlt)
    omega

/-- The exponent of a ratio, unless it is the least one, is that of a mantissa of full length. -/
theorem exponentOf_le_iff {num den : Nat} (hnum : num ≠ 0) (hden : 0 < den) {k : Int}
    (hk : minExponent ≤ k) : exponentOf num den ≤ k ↔ (num / den : ℚ) < 2 ^ (k + 53) := by
  obtain ⟨hlow, hhigh⟩ := ratio_between hnum hden.ne'
  unfold exponentOf
  generalize hguess : (num.log2 : Int) - den.log2 - (precision - 1 : Nat) = guess
  have hlength : (num.log2 : Int) - den.log2 = guess + 52 := by
    rw [← hguess]
    simp [precision]
  rw [hlength] at hlow hhigh
  have hstep : (num / den : ℚ) < 2 ^ (guess + 52) ↔
      (scaleBy num den guess).1 < (scaleBy num den guess).2 * Nat.pow 2 (precision - 1) :=
    (scaleBy_lt_iff hden guess 52).symm
  dsimp only
  rw [max_le_iff, and_iff_left hk]
  -- the guess is right, or one too high where it leaves the mantissa a bit short
  split
  · rename_i hshort
    apply le_iff_lt_of_binade
    · rw [show guess - 1 + 52 = guess + 52 - 1 by omega]
      exact hlow.le
    · rw [show guess - 1 + 53 = guess + 52 by omega]
      exact hstep.mpr hshort
  · rename_i hfull
    apply le_iff_lt_of_binade
    · exact not_lt.mp (fun h => hfull (hstep.mp h))
    · rw [show guess + 53 = guess + 52 + 1 by omega]
      exact hhigh

/-! ## Rounding -/

/-- A quotient below an even number is rounded up to it from half a unit below it on; the tie goes
to it, since the number before it is odd. -/
theorem divideToEven_eq_iff {num den k : Nat} (hlt : num < den * (2 * k)) :
    divideToEven num den = 2 * k ↔ den * (4 * k - 1) ≤ 2 * num := by
  have hden : 0 < den := Nat.pos_of_ne_zero (by rintro rfl; simp at hlt)
  have hquotient : num / den < 2 * k := Nat.div_lt_of_lt_mul hlt
  have hpos : 0 < 2 * k := Nat.zero_lt_of_lt hquotient
  have hremainder : num % den < den := Nat.mod_lt _ hden
  have hparts : den * (num / den) + num % den = num := Nat.div_add_mod num den
  have hhalf : den * (4 * k - 1) = 2 * (den * (2 * k - 1)) + den := by
    rw [show 4 * k - 1 = 2 * (2 * k - 1) + 1 by omega]
    ring
  unfold divideToEven
  dsimp only
  generalize num / den = q at *
  generalize num % den = r at *
  rw [hhalf, ← hparts]
  by_cases hlast : q = 2 * k - 1
  · rw [if_neg (show ¬q % 2 = 0 by omega), hlast]
    split
    · omega
    · split <;> omega
  · have hbelow : den * q + den ≤ den * (2 * k - 1) := by
      rw [← Nat.mul_succ]
      exact Nat.mul_le_mul_left den (by omega)
    constructor
    · intro h
      split at h
      · omega
      · split at h
        · omega
        · split at h <;> omega
    · intro h
      omega

/-- The same on the scale of a unit. -/
theorem divideToEven_mul_eq_iff {num den unit k : Nat} (hden : 0 < den)
    (hlt : (num / den : ℚ) < unit * (2 * k)) :
    divideToEven num (den * unit) = 2 * k ↔ (unit * (2 * k - 1 / 2) : ℚ) ≤ num / den := by
  have hpos : (0 : ℚ) < den := by exact_mod_cast hden
  have hbelow : num < den * unit * (2 * k) := by
    rw [div_lt_iff₀' hpos, ← mul_assoc] at hlt
    exact_mod_cast hlt
  have hk : 1 ≤ 4 * k := by
    have hpositive : 0 < den * unit * (2 * k) := Nat.zero_lt_of_lt hbelow
    have : 0 < 2 * k := Nat.pos_of_mul_pos_left hpositive
    omega
  have hcast : den * unit * (4 * k - 1) ≤ 2 * num ↔
      ((den * unit * (4 * k - 1) : Nat) : ℚ) ≤ (2 * num : Nat) := Nat.cast_le.symm
  rw [divideToEven_eq_iff hbelow, hcast, le_div_iff₀' hpos, Nat.cast_mul, Nat.cast_sub hk]
  push_cast
  constructor
  · intro h
    linarith
  · intro h
    linarith

/-- At the greatest exponent, a mantissa is rounded up to one that is too long from half a unit
below it on. -/
theorem divideToEven_top_iff {num den : Nat} (hden : 0 < den) (hlt : (num / den : ℚ) < 2 ^ 1024) :
    divideToEven num (den * 2 ^ 971) = Nat.pow 2 precision ↔
      (2 : ℚ) ^ 1024 - 2 ^ 970 ≤ num / den := by
  have hscale : ((2 ^ 971 : Nat) : ℚ) * (2 * (2 ^ 52 : Nat)) = 2 ^ 1024 := by
    rw [Nat.cast_pow, Nat.cast_pow, Nat.cast_ofNat, ← pow_succ', ← pow_add]
  have hbound : ((2 ^ 971 : Nat) : ℚ) * (2 * (2 ^ 52 : Nat) - 1 / 2) = 2 ^ 1024 - 2 ^ 970 := by
    rw [mul_sub, hscale, mul_one_div, Nat.cast_pow, Nat.cast_ofNat, pow_succ (2 : ℚ) 970,
      mul_div_cancel_right₀ _ two_ne_zero]
  have hfull : Nat.pow 2 precision = 2 * 2 ^ 52 := rfl
  rw [← hscale] at hlt
  rw [hfull, ← hbound]
  exact divideToEven_mul_eq_iff hden hlt

/-! ## Overflow -/

/-- The number of a mantissa and an exponent.  A mantissa that is one too long is halved. -/
def pack (negative : Bool) (m : Nat) (e : Int) : Binary64 :=
  let (m, e) := if m = Nat.pow 2 precision then (Nat.pow 2 (precision - 1), e + 1) else (m, e)
  if maxExponent < e then infinite negative else finite negative m e

/-- The nearest number has the exponent of the ratio, and its mantissa is rounded there. -/
theorem exists_ofRatio_eq_pack (negative : Bool) {num : Nat} (hnum : num ≠ 0) (den : Nat) :
    ∃ e n d, exponentOf num den = e ∧ scaleBy num den e = (n, d) ∧
      ofRatio negative num den = pack negative (divideToEven n d) e := by
  unfold ofRatio
  rw [if_neg hnum]
  extract_lets e
  have he : exponentOf num den = e := rfl
  -- the exponent must not be computed when the two sides are compared
  clear_value e
  cases hscaled : scaleBy num den e with | mk n d =>
  exact ⟨e, n, d, he, hscaled, rfl⟩

theorem pack_cases (negative : Bool) (m : Nat) (e : Int) :
    (∃ m' e', pack negative m e = finite negative m' e') ∨
      pack negative m e = infinite negative := by
  unfold pack
  generalize (if m = Nat.pow 2 precision then (Nat.pow 2 (precision - 1), e + 1) else (m, e)) = r
  by_cases hover : maxExponent < r.2
  · exact .inr (if_pos hover)
  · exact .inl ⟨r.1, r.2, if_neg hover⟩

/-- A number is beyond the format if its exponent is, and at the greatest exponent if its mantissa
is too long. -/
theorem isFinite_pack (negative : Bool) (m : Nat) (e : Int) :
    (pack negative m e).isFinite = true ↔
      e ≤ maxExponent ∧ (e = maxExponent → m ≠ Nat.pow 2 precision) := by
  unfold pack
  by_cases hcarry : m = Nat.pow 2 precision
  · rw [if_pos hcarry]
    simp only [hcarry, ne_eq, not_true, imp_false]
    by_cases hover : maxExponent < e + 1
    · rw [if_pos hover]
      simp only [isFinite, Bool.false_eq_true, false_iff, not_and, not_not]
      omega
    · rw [if_neg hover]
      simp only [isFinite, true_iff]
      omega
  · rw [if_neg hcarry]
    simp only [hcarry, ne_eq, not_false_eq_true, implies_true, and_true]
    by_cases hover : maxExponent < e
    · rw [if_pos hover]
      simp only [isFinite, Bool.false_eq_true, false_iff]
      omega
    · rw [if_neg hover]
      simp only [isFinite, true_iff]
      omega

/-- The nearest number to a ratio keeps the sign, be it of the format or beyond it. -/
theorem ofRatio_cases (negative : Bool) (num den : Nat) :
    (∃ m e, ofRatio negative num den = finite negative m e) ∨
      ofRatio negative num den = infinite negative := by
  by_cases hnum : num = 0
  · exact .inl ⟨0, minExponent, if_pos hnum⟩
  · obtain ⟨e, n, d, -, -, hpack⟩ := exists_ofRatio_eq_pack negative hnum den
    rw [hpack]
    exact pack_cases negative _ e

/-- The nearest number to a ratio is finite just if the ratio is less than half a unit above the
greatest number. -/
theorem isFinite_ofRatio_iff (negative : Bool) (num : Nat) {den : Nat} (hden : 0 < den) :
    (ofRatio negative num den).isFinite = true ↔ (num / den : ℚ) < 2 ^ 1024 - 2 ^ 970 := by
  by_cases hnum : num = 0
  · have hbound : (0 : ℚ) < 2 ^ 1024 - 2 ^ 970 :=
      sub_pos.mpr (pow_lt_pow_right₀ one_lt_two (by decide))
    rw [hnum, ofRatio, if_pos rfl]
    simpa [isFinite] using hbound
  obtain ⟨e, n, d, hexponent, hscaled, hpack⟩ := exists_ofRatio_eq_pack negative hnum den
  have htop : e ≤ 971 ↔ (num / den : ℚ) < 2 ^ 1024 := by
    rw [← hexponent]
    exact exponentOf_le_iff hnum hden (show minExponent ≤ 971 by decide)
  have hnext : e ≤ 970 ↔ (num / den : ℚ) < 2 ^ 1023 := by
    rw [← hexponent]
    exact exponentOf_le_iff hnum hden (show minExponent ≤ 970 by decide)
  have hhalf : (2 : ℚ) ^ 1023 < 2 ^ 1024 - 2 ^ 970 := by
    have hdouble : (2 : ℚ) ^ 1024 = 2 ^ 1023 + 2 ^ 1023 := by rw [← two_mul, ← pow_succ']
    have hless : (2 : ℚ) ^ 970 < 2 ^ 1023 := pow_lt_pow_right₀ one_lt_two (by decide)
    rw [lt_sub_iff_add_lt, hdouble]
    exact add_lt_add_right hless _
  rw [hpack, isFinite_pack]
  rcases lt_trichotomy e 971 with hbelow | rfl | habove
  · -- the ratio is below the last binade
    have hsmall : (num / den : ℚ) < 2 ^ 1023 := hnext.mp (by omega)
    exact iff_of_true ⟨hbelow.le, fun h => absurd h hbelow.ne⟩ (hsmall.trans hhalf)
  · -- in the last binade, the mantissa decides
    obtain ⟨rfl, rfl⟩ := Prod.mk.inj ((scaleBy_natCast num den 971).symm.trans hscaled)
    rw [← not_le, ← divideToEven_top_iff hden (htop.mp le_rfl)]
    exact ⟨fun h => h.2 rfl, fun h => ⟨le_rfl, fun _ => h⟩⟩
  · -- the ratio is above the last binade
    have hlarge : (2 : ℚ) ^ 1024 ≤ num / den := not_lt.mp fun h => absurd (htop.mpr h) (by omega)
    have hover : (2 : ℚ) ^ 1024 - 2 ^ 970 ≤ num / den :=
      (sub_le_self _ (by positivity)).trans hlarge
    exact iff_of_false (fun h => absurd h.1 (not_le.mpr habove)) (not_lt.mpr hover)

/-! ## Comparison and multiples -/

/-- A finite number compares as the rational that it stands for. -/
theorem ltInt_finite_iff (negative : Bool) (m : Nat) (e n : Int) :
    (finite negative m e).ltInt n = true ↔ (signed negative m * 2 ^ e : ℚ) < n := by
  unfold ltInt
  dsimp only
  split
  · rename_i he
    obtain ⟨k, rfl⟩ := Int.eq_ofNat_of_zero_le he
    rw [decide_eq_true_iff, zpow_natCast]
    exact_mod_cast Iff.rfl
  · rename_i he
    obtain ⟨k, hk⟩ := Int.eq_ofNat_of_zero_le (show 0 ≤ -e by omega)
    obtain rfl : e = -k := by omega
    rw [decide_eq_true_iff, zpow_neg, zpow_natCast, ← div_eq_mul_inv,
      div_lt_iff₀ (by positivity), neg_neg]
    exact_mod_cast Iff.rfl

/-- A number that is not at most zero has a mantissa and no sign. -/
theorem pos_of_leInt_zero {negative : Bool} {m : Nat} {e : Int}
    (h : (finite negative m e).leInt 0 = false) : negative = false ∧ 0 < m := by
  cases negative with
  | true =>
    have hle : (finite true m e).leInt 0 = true := by
      simp [leInt, signed]
    rw [hle] at h
    cases h
  | false =>
    refine ⟨rfl, Nat.pos_of_ne_zero ?_⟩
    rintro rfl
    simp [leInt, signed] at h

/-- A multiple of a finite number is the nearest number to a ratio. -/
theorem exists_scaleUp_eq_ofRatio (negative : Bool) (m : Nat) (e : Int) (k : Nat) :
    ∃ num den : Nat, 0 < den ∧ (num / den : ℚ) = m * 2 ^ e * 2 ^ k ∧
      (finite negative m e).scaleUp k = ofRatio negative num den := by
  by_cases he : 0 ≤ e
  · refine ⟨m * Nat.pow 2 e.toNat * Nat.pow 2 k, 1, Nat.one_pos, ?_, ?_⟩
    · obtain ⟨i, rfl⟩ := Int.eq_ofNat_of_zero_le he
      simp
    · rw [scaleUp, if_pos he]
  · refine ⟨m * Nat.pow 2 k, Nat.pow 2 (-e).toNat, Nat.pow_pos (by decide), ?_, ?_⟩
    · obtain ⟨i, hi⟩ := Int.eq_ofNat_of_zero_le (show 0 ≤ -e by omega)
      obtain rfl : e = -i := by omega
      simp [div_eq_mul_inv, mul_right_comm]
    · rw [scaleUp, if_neg he]

/-- A multiple of a finite number keeps the sign, be it of the format or beyond it. -/
theorem scaleUp_cases (negative : Bool) (m : Nat) (e : Int) (k : Nat) :
    (∃ m' e', (finite negative m e).scaleUp k = finite negative m' e') ∨
      (finite negative m e).scaleUp k = infinite negative := by
  obtain ⟨num, den, -, -, hscale⟩ := exists_scaleUp_eq_ofRatio negative m e k
  rw [hscale]
  exact ofRatio_cases negative num den

/-- A multiple of a positive number by a power of two is finite just if the number is below the
bound of the format, divided by that power. -/
theorem isFinite_scaleUp_iff {x : Binary64} (hpos : x.leInt 0 = false) {k : Nat} (hk : k ≤ 970) :
    (x.scaleUp k).isFinite = true ↔ x.ltInt (2 ^ (1024 - k) - 2 ^ (970 - k)) = true := by
  cases x with
  | nan => simp [scaleUp, isFinite, ltInt]
  | infinite negative =>
    obtain rfl : negative = false := hpos
    simp [scaleUp, isFinite, ltInt]
  | finite negative m e =>
    obtain ⟨rfl, -⟩ := pos_of_leInt_zero hpos
    obtain ⟨num, den, hden, hratio, hscale⟩ := exists_scaleUp_eq_ofRatio false m e k
    have htop : (2 : ℚ) ^ 1024 = 2 ^ (1024 - k) * 2 ^ k := by
      rw [← pow_add, Nat.sub_add_cancel (by omega)]
    have hhalf : (2 : ℚ) ^ 970 = 2 ^ (970 - k) * 2 ^ k := by
      rw [← pow_add, Nat.sub_add_cancel hk]
    rw [hscale, isFinite_ofRatio_iff false num hden, hratio, ltInt_finite_iff, htop, hhalf,
      ← sub_mul, mul_lt_mul_iff_left₀ (by positivity)]
    simp [signed]

end CodeMetrics.Binary64
