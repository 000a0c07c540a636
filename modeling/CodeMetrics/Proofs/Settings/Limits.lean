import CodeMetrics.Proofs.Number.Overflow
import CodeMetrics.Proofs.Settings.Checks

/-!
# Size limits in bytes

A size limit is checked in megabytes and used in bytes.  A positive limit in
megabytes need not have a number of bytes: what is no number passes the check,
and so does what is beyond all numbers once it is multiplied.

* `Quantity.limitFault?` — what is wrong with a positive limit in bytes;
* `Settings.maxFileBytes_cases` — nothing else is, and a limit without a fault has a number of bytes
  that is not negative.
-/

namespace CodeMetrics

namespace Quantity

/-- The size limits that have a number of bytes are below this number of megabytes. -/
def byteBound : Int := 2 ^ 1004 - 2 ^ 950

/-- What is wrong with a positive size limit when it is asked for in bytes. -/
def limitFault? : Quantity → Option Uncaught
  | float .nan => some .nanLimit
  | float x => if x.ltInt byteBound then none else some .infiniteLimit
  | _ => none

end Quantity

namespace Settings

/-- What is wrong with the size limit when it is asked for in bytes. -/
def limitFault? (s : Settings) : Option Uncaught := s.maxFileSizeMb.limitFault?

/-- The number of bytes of a positive limit, if it has one. -/
theorem maxFileBytes_cases {s : Settings} (hpos : s.maxFileSizeMb.leInt 0 = false) :
    (s.limitFault? = none ∧ ∃ n, 0 ≤ n ∧ s.maxFileBytes = .ok n) ∨
      ∃ u, s.limitFault? = some u ∧ s.maxFileBytes = .error u := by
  unfold limitFault?
  cases hlimit : s.maxFileSizeMb with
  | bool b =>
    refine .inl ⟨rfl, b.toNat * 1024 * 1024, by omega, ?_⟩
    rw [maxFileBytes, hlimit]
  | int n =>
    have hn : 0 < n := by simpa [hlimit, Quantity.leInt] using hpos
    refine .inl ⟨rfl, n * 1024 * 1024, by omega, ?_⟩
    rw [maxFileBytes, hlimit]
  | float x =>
    rw [hlimit] at hpos
    change x.leInt 0 = false at hpos
    rw [maxFileBytes, hlimit]
    dsimp only
    cases x with
    | nan => exact .inr ⟨.nanLimit, rfl, rfl⟩
    | infinite negative =>
      obtain rfl : negative = false := hpos
      exact .inr ⟨.infiniteLimit, rfl, rfl⟩
    | finite negative m e =>
      obtain ⟨rfl, -⟩ := Binary64.pos_of_leInt_zero hpos
      have hbound : ((Binary64.finite false m e).scaleUp 20).isFinite = true ↔
          (Binary64.finite false m e).ltInt Quantity.byteBound = true :=
        Binary64.isFinite_scaleUp_iff hpos (by decide)
      -- the product is of the format, or it is what is beyond all numbers
      rcases Binary64.scaleUp_cases false m e 20 with ⟨m', e', hscale⟩ | hscale
      · refine .inl ⟨if_pos (hbound.mp (by rw [hscale]; rfl)), ?_⟩
        rw [hscale]
        exact ⟨_, Int.natCast_nonneg _, rfl⟩
      · refine .inr ⟨.infiniteLimit, if_neg (fun h => ?_), by rw [hscale]⟩
        rw [← hbound, hscale] at h
        cases h

/-- A positive limit has a number of bytes just if nothing is wrong with it, and then the number is
not negative. -/
theorem maxFileBytes_ok_iff {s : Settings} (hpos : s.maxFileSizeMb.leInt 0 = false) :
    (∃ n, 0 ≤ n ∧ s.maxFileBytes = .ok n) ↔ s.limitFault? = none := by
  rcases maxFileBytes_cases hpos with ⟨hfault, hbytes⟩ | ⟨u, hfault, hbytes⟩
  · exact iff_of_true hbytes hfault
  · refine iff_of_false ?_ (by rw [hfault]; exact Option.some_ne_none u)
    rintro ⟨n, -, hok⟩
    rw [hbytes] at hok
    cases hok

/-- Asking for a positive limit in bytes fails with what is wrong with it. -/
theorem error?_maxFileBytes {s : Settings} (hpos : s.maxFileSizeMb.leInt 0 = false) :
    error? s.maxFileBytes = s.limitFault? := by
  rcases maxFileBytes_cases hpos with ⟨hfault, n, -, hbytes⟩ | ⟨u, hfault, hbytes⟩
  · rw [hfault, hbytes, error?_ok]
  · rw [hfault, hbytes, error?_error]

end Settings

end CodeMetrics
