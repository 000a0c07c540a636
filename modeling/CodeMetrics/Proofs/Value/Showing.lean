import CodeMetrics.Value.Basic

/-!
# Values that can be shown

A message shows the value that it speaks of.  Two things keep a value from being
shown: how deep values lie inside one another, and how long its whole numbers
are.

* `Value.depth`, `Value.wholeNumbers` — the two measures;
* `Value.Shown` — the values that can be shown, which are those without a fault
  (`Value.plainFault?_eq_none_iff`).
-/

namespace CodeMetrics.Value

mutual

/-- How many levels the values inside a value take. -/
def depth : Value → Nat
  | moment m => m.levels
  | array items => itemsDepth items
  | table entries => entriesDepth entries
  | _ => 0

/-- How many levels the items of an array take. -/
def itemsDepth : List Value → Nat
  | [] => 0
  | v :: rest => max (depth v + 1) (itemsDepth rest)

/-- How many levels the entries of a table take. -/
def entriesDepth : List (String × Value) → Nat
  | [] => 0
  | (_, v) :: rest => max (depth v + 1) (entriesDepth rest)

end

mutual

/-- The whole numbers in a value. -/
def wholeNumbers : Value → List Int
  | int n => [n]
  | array items => itemsNumbers items
  | table entries => entriesNumbers entries
  | _ => []

/-- The whole numbers in the items of an array. -/
def itemsNumbers : List Value → List Int
  | [] => []
  | v :: rest => wholeNumbers v ++ itemsNumbers rest

/-- The whole numbers in the entries of a table. -/
def entriesNumbers : List (String × Value) → List Int
  | [] => []
  | (_, v) :: rest => wholeNumbers v ++ entriesNumbers rest

end

/-- All of the numbers have few enough digits to be shown. -/
def AreShort (numbers : List Int) : Prop := ∀ n ∈ numbers, n.natAbs < Nat.pow 10 maxDigits

theorem areShort_append (ns ms : List Int) : AreShort (ns ++ ms) ↔ AreShort ns ∧ AreShort ms :=
  List.forall_mem_append

/-- A value in front of others that lie on the same level: it takes one level, and the rest are
shown as before. -/
theorem or_eq_none_iff_within {room depth restDepth : Nat} {numbers restNumbers : List Int}
    {first rest : Option ShowFault}
    (hfirst : first = none ↔ depth ≤ room - 1 ∧ AreShort numbers)
    (hrest : rest = none ↔ restDepth ≤ room ∧ AreShort restNumbers) :
    (if room = 0 then some .tooDeep else first.or rest) = none ↔
      max (depth + 1) restDepth ≤ room ∧ AreShort (numbers ++ restNumbers) := by
  rw [areShort_append]
  by_cases hroom : room = 0
  · rw [if_pos hroom]
    refine iff_of_false (Option.some_ne_none _) fun h => ?_
    omega
  · rw [if_neg hroom, Option.or_eq_none_iff, hfirst, hrest]
    constructor
    · rintro ⟨⟨hdepth, hshort⟩, hrest, hrestShort⟩
      exact ⟨by omega, hshort, hrestShort⟩
    · rintro ⟨hdepth, hshort, hrestShort⟩
      exact ⟨⟨by omega, hshort⟩, by omega, hrestShort⟩

mutual

/-- A value can be shown inside another one just if it is not too deep and its numbers are not too
long. -/
theorem displayFault?_eq_none_iff (room : Nat) (v : Value) :
    v.displayFault? room = none ↔ v.depth ≤ room ∧ AreShort v.wholeNumbers := by
  cases v with
  | int n => simp [displayFault?, depth, wholeNumbers, AreShort]
  | moment m => simp [displayFault?, depth, wholeNumbers, AreShort]
  | array items => exact itemsFault?_eq_none_iff room items
  | table entries => exact entriesFault?_eq_none_iff room entries
  | _ => simp [displayFault?, depth, wholeNumbers, AreShort]

theorem itemsFault?_eq_none_iff (room : Nat) (items : List Value) :
    itemsFault? room items = none ↔ itemsDepth items ≤ room ∧ AreShort (itemsNumbers items) := by
  cases items with
  | nil => simp [itemsFault?, itemsDepth, itemsNumbers, AreShort]
  | cons v rest =>
    exact or_eq_none_iff_within (displayFault?_eq_none_iff (room - 1) v)
      (itemsFault?_eq_none_iff room rest)

theorem entriesFault?_eq_none_iff (room : Nat) (entries : List (String × Value)) :
    entriesFault? room entries = none ↔
      entriesDepth entries ≤ room ∧ AreShort (entriesNumbers entries) := by
  cases entries with
  | nil => simp [entriesFault?, entriesDepth, entriesNumbers, AreShort]
  | cons entry rest =>
    obtain ⟨_, v⟩ := entry
    exact or_eq_none_iff_within (displayFault?_eq_none_iff (room - 1) v)
      (entriesFault?_eq_none_iff room rest)

end

/-- The value can be shown by itself, with a number of levels for the values inside it.  Dates and
times can be in any case. -/
def Shown (levels : Nat) (v : Value) : Prop :=
  (∃ m, v = .moment m) ∨ v.depth ≤ levels ∧ AreShort v.wholeNumbers

theorem plainFault?_eq_none_iff (levels : Nat) (v : Value) :
    v.plainFault? levels = none ↔ v.Shown levels := by
  have hinside := displayFault?_eq_none_iff levels v
  cases v with
  | moment m => exact iff_of_true rfl (.inl ⟨m, rfl⟩)
  | _ => simpa [Shown, plainFault?] using hinside

end CodeMetrics.Value
