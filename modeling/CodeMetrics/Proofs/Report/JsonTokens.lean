import CodeMetrics.Proofs.Number.Numeral
import CodeMetrics.Proofs.Text.Pieces
import CodeMetrics.Report.Json
import CodeMetrics.Toml.Text
import Mathlib.Data.List.Basic
import Mathlib.Data.List.TakeWhile

/-!
# Tokens of JSON

The first half of a reader for JSON of any make: it takes a text apart into
tokens, character by character, and refuses what no text in JSON holds.  It
knows nothing of how reports are written.

* `Json` — the values of JSON;
* `Json.Mode`, `Json.step` — where the reader stands in a token, and one more character;
* `Json.tokensFrom` — the tokens of a text.

What the writer of reports puts down is read back piece by piece:

* `Json.tokensFrom_newLine` — the layout between tokens leaves nothing behind;
* `Json.tokensFrom_quoted` — a quoted text is the text, by way of its UTF-16 units
  (`Json.characters?_flatMap_units`);
* `Json.tokensFrom_integer` — a number is the number, once something else follows it.
-/

namespace CodeMetrics

/-- The values of JSON.  The fields of an object are in order; a number with a point or an exponent
is kept as a mantissa and a power of ten. -/
inductive Json where
  | null
  | bool (b : Bool)
  | integer (n : Int)
  | decimal (mantissa exponent : Int)
  | text (s : String)
  | array (items : List Json)
  | object (fields : List (String × Json))
deriving Repr, Inhabited

namespace Json

/-- The tokens of JSON.  A scalar is a number or one of the three words. -/
inductive Token where
  | openArray
  | closeArray
  | openObject
  | closeObject
  | comma
  | colon
  | text (s : String)
  | scalar (v : Json)
deriving Repr, Inhabited

/-! ## Single characters -/

/-- The blanks between tokens. -/
def isBlank (c : Char) : Bool := c = ' ' || c = '\t' || c = '\n' || c = '\r'

/-- Whether the character can stand in a number or a word. -/
def isBare (c : Char) : Bool := c.isAlphanum || c = '-' || c = '+' || c = '.'

/-- The token that is written as the character. -/
def mark? : Char → Option Token
  | '[' => some .openArray
  | ']' => some .closeArray
  | '\x7b' => some .openObject
  | '\x7d' => some .closeObject
  | ',' => some .comma
  | ':' => some .colon
  | _ => none

/-- The code point that a one-letter escape stands for. -/
def escaped? : Char → Option Nat
  | '"' => some 34
  | '\\' => some 92
  | '/' => some 47
  | 'b' => some 8
  | 'f' => some 12
  | 'n' => some 10
  | 'r' => some 13
  | 't' => some 9
  | _ => none

/-- The character that two surrogates stand for. -/
def paired? (high low : Nat) : Option Char :=
  if 0xD800 ≤ high ∧ high < 0xDC00 ∧ 0xDC00 ≤ low ∧ low < 0xE000 then
    some (Char.ofNat (0x10000 + (high - 0xD800) * 0x400 + (low - 0xDC00)))
  else none

/-- The characters of a text from its codes.  Surrogates come in pairs. -/
def characters? : List Nat → Option (List Char)
  | [] => some []
  | n :: rest =>
      if n.isValidChar then (characters? rest).map (Char.ofNat n :: ·)
      else
        match rest with
        | [] => none
        | m :: rest => do
            let c ← paired? n m
            return c :: (← characters? rest)

/-! ## Numbers and words -/

/-- Takes a minus off a text. -/
def takeMinus : List Char → Bool × List Char
  | '-' :: rest => (true, rest)
  | cs => (false, cs)

/-- The number that ASCII digits stand for behind a minus or none. -/
def signed (negative : Bool) (ds : List Char) : Int :=
  if negative then -(Numeral.ofAscii ds : Int) else Numeral.ofAscii ds

/-- Reads a number: a minus or none, digits without a zero before others, and, or not, a point with
digits and an exponent. -/
def number? (cs : List Char) : Option Json :=
  let (negative, rest) := takeMinus cs
  let whole := rest.takeWhile Char.isDigit
  if whole.isEmpty || (whole.head? == some '0' && whole.length != 1) then none
  else
    match rest.dropWhile Char.isDigit with
    | [] => some (.integer (signed negative whole))
    | '.' :: rest =>
        let fraction := rest.takeWhile Char.isDigit
        if fraction.isEmpty then none
        else
          (Numeral.readExponent (rest.dropWhile Char.isDigit)).map fun e =>
            .decimal (signed negative (whole ++ fraction)) (e - fraction.length)
    | rest => (Numeral.readExponent rest).map fun e => .decimal (signed negative whole) e

/-- Reads one of the three words. -/
def word? (cs : List Char) : Option Json :=
  match String.ofList cs with
  | "null" => some .null
  | "true" => some (.bool true)
  | "false" => some (.bool false)
  | _ => none

/-- Reads a number or a word. -/
def scalar? (cs : List Char) : Option Json := number? cs <|> word? cs

/-! ## The reader -/

/-- Where the reader stands. -/
inductive Mode where
  /-- Between tokens. -/
  | between
  /-- In a number or a word. -/
  | bare (read : List Char)
  /-- In a text, with the codes so far. -/
  | text (codes : List Nat)
  /-- Behind a backslash in a text. -/
  | escape (codes : List Nat)
  /-- In an escape by number: the number so far, and how many digits come after the next one. -/
  | unit (codes : List Nat) (later n : Nat)
deriving Repr, DecidableEq, Inhabited

/-- One character between tokens. -/
def begin (c : Char) : Option (List Token × Mode) :=
  if isBlank c then some ([], .between)
  else if isBare c then some ([], .bare [c])
  else if c = '"' then some ([], .text [])
  else (mark? c).map (fun t => ([t], .between))

/-- One more character: the tokens that it completes and where the reader stands after it. -/
def step : Mode → Char → Option (List Token × Mode)
  | .between, c => begin c
  | .bare read, c =>
      if isBare c then some ([], .bare (read ++ [c]))
      else do
        let v ← scalar? read
        let (tokens, mode) ← begin c
        return (.scalar v :: tokens, mode)
  | .text codes, c =>
      if c = '"' then (characters? codes).map (fun cs => ([.text (String.ofList cs)], .between))
      else if c = '\\' then some ([], .escape codes)
      else if c.toNat < 32 then none
      else some ([], .text (codes ++ [c.toNat]))
  | .escape codes, c =>
      if c = 'u' then some ([], .unit codes 3 0)
      else (escaped? c).map (fun n => ([], .text (codes ++ [n])))
  | .unit codes 0 n, c =>
      (Toml.hexValue? c).map (fun d => ([], .text (codes ++ [16 * n + d])))
  | .unit codes (later + 1) n, c =>
      (Toml.hexValue? c).map (fun d => ([], .unit codes later (16 * n + d)))

/-- The tokens that the end of the text completes. -/
def finish : Mode → Option (List Token)
  | .between => some []
  | .bare read => (scalar? read).map (fun v => [.scalar v])
  | _ => none

/-- The tokens of the rest of a text. -/
def tokensFrom (mode : Mode) : List Char → Option (List Token)
  | [] => finish mode
  | c :: rest =>
      match step mode c with
      | none => none
      | some (tokens, mode) => (tokensFrom mode rest).map (tokens ++ ·)

/-- What can follow a number: nothing, or a character that does not belong to it. -/
def Ends (rest : List Char) : Prop := ∀ c ∈ rest.head?, isBare c = false

/-! ## Steps -/

theorem tokensFrom_of_step {mode mode' : Mode} {c : Char} {tokens : List Token}
    (h : step mode c = some (tokens, mode')) (rest : List Char) :
    tokensFrom mode (c :: rest) = (tokensFrom mode' rest).map (tokens ++ ·) := by
  simp only [tokensFrom, h]

/-- A character that completes no token. -/
theorem tokensFrom_of_silent {mode : Mode} {c : Char} (mode' : Mode)
    (h : step mode c = some ([], mode')) (rest : List Char) :
    tokensFrom mode (c :: rest) = tokensFrom mode' rest := by
  rw [tokensFrom_of_step h]
  exact Option.map_id_apply

theorem tokensFrom_mark {c : Char} {t : Token} (h : begin c = some ([t], .between))
    (rest : List Char) :
    tokensFrom .between (c :: rest) = (tokensFrom .between rest).map (t :: ·) := by
  have hstep : step .between c = some ([t], .between) := h
  rw [tokensFrom_of_step hstep]
  rfl

/-! ## Layout -/

theorem tokensFrom_spaces (n : Nat) (rest : List Char) :
    tokensFrom .between (List.replicate n ' ' ++ rest) = tokensFrom .between rest := by
  induction n with
  | zero => rfl
  | succ n ih =>
    rw [List.replicate_succ, List.cons_append, tokensFrom_of_silent .between rfl]
    exact ih

@[simp] theorem tokensFrom_newLine (level : Nat) (rest : List Char) :
    tokensFrom .between (JsonValue.newLine level ++ rest) = tokensFrom .between rest := by
  rw [JsonValue.newLine, List.cons_append, tokensFrom_of_silent .between rfl]
  exact tokensFrom_spaces _ rest

theorem ends_nil : Ends [] := by simp [Ends]

theorem ends_cons {c : Char} (h : isBare c = false) (rest : List Char) : Ends (c :: rest) := by
  intro d hd
  rw [List.head?_cons, Option.mem_some_iff] at hd
  exact hd ▸ h

theorem ends_newLine (level : Nat) (rest : List Char) : Ends (JsonValue.newLine level ++ rest) :=
  ends_cons rfl _

/-! ## Numbers -/

theorem eq_zero_of_digitChar : ∀ n < 10, Nat.digitChar n = '0' → n = 0 := by decide

/-- A number is written without a zero in front of other digits. -/
theorem length_toDigits_of_head {n : Nat} (h : (Nat.toDigits 10 n).head? = some '0') :
    (Nat.toDigits 10 n).length = 1 := by
  have hzero : n = 0 := by
    induction n using Nat.strongRecOn with
    | ind n ih =>
      by_cases hn : n < 10
      · rw [Nat.toDigits_of_lt_base hn, List.head?_cons, Option.some.injEq] at h
        exact eq_zero_of_digitChar n hn h
      · rw [Nat.toDigits_of_base_le (by omega) (by omega),
          List.head?_append_of_ne_nil _ Nat.toDigits_ne_nil] at h
        have := ih (n / 10) (by omega) h
        omega
  rw [hzero]
  rfl

theorem number?_of_digits {cs : List Char} {negative : Bool} {n : Nat}
    (h : takeMinus cs = (negative, Nat.toDigits 10 n)) :
    number? cs = some (.integer (if negative then -(n : Int) else n)) := by
  have hwhole : (Nat.toDigits 10 n).takeWhile Char.isDigit = Nat.toDigits 10 n :=
    List.takeWhile_eq_self_iff.mpr (fun _ hc => Numeral.isDigit_of_mem_toDigits hc)
  have hrest : (Nat.toDigits 10 n).dropWhile Char.isDigit = [] :=
    List.dropWhile_eq_nil_iff.mpr (fun _ hc => Numeral.isDigit_of_mem_toDigits hc)
  have hplain : ((Nat.toDigits 10 n).isEmpty || ((Nat.toDigits 10 n).head? == some '0' &&
      (Nat.toDigits 10 n).length != 1)) = false := by
    by_cases hhead : (Nat.toDigits 10 n).head? = some '0'
    · simp [Nat.toDigits_ne_nil, length_toDigits_of_head hhead]
    · simp [Nat.toDigits_ne_nil, hhead]
  simp only [number?, h, hwhole, hrest, hplain, signed, Numeral.ofAscii_toDigits]
  rfl

theorem toList_toString (n : Int) : (toString n).toList =
    if 0 ≤ n then Nat.toDigits 10 n.toNat else '-' :: Nat.toDigits 10 (-n).toNat := by
  rw [Int.toString_eq_repr, Int.repr_eq_if]
  split <;> simp [Nat.toList_repr]

theorem takeMinus_toDigits (n : Nat) :
    takeMinus (Nat.toDigits 10 n) = (false, Nat.toDigits 10 n) := by
  generalize hds : Nat.toDigits 10 n = ds
  unfold takeMinus
  split
  · have hminus : '-' ∈ Nat.toDigits 10 n := hds ▸ List.mem_cons_self
    exact absurd (Numeral.isDigit_of_mem_toDigits hminus) (by decide)
  · rfl

theorem scalar?_toString (n : Int) : scalar? (toString n).toList = some (.integer n) := by
  have hnumber : number? (toString n).toList = some (.integer n) := by
    rw [toList_toString]
    by_cases hn : 0 ≤ n
    · rw [if_pos hn, number?_of_digits (takeMinus_toDigits _), if_neg Bool.false_ne_true,
        Int.toNat_of_nonneg hn]
    · have htake : takeMinus ('-' :: Nat.toDigits 10 (-n).toNat) =
          (true, Nat.toDigits 10 (-n).toNat) := rfl
      rw [if_neg hn, number?_of_digits htake, if_pos rfl, Int.toNat_of_nonneg (by omega),
        Int.neg_neg]
  rw [scalar?, hnumber]
  rfl

theorem isDigit_or_of_mem_toString {n : Int} {c : Char} (hc : c ∈ (toString n).toList) :
    c.isDigit ∨ c = '-' := by
  by_contra h
  obtain ⟨hdigit, hsign⟩ := not_or.mp h
  exact Text.not_mem_repr (Bool.eq_false_of_not_eq_true hdigit) hsign n hc

theorem isBare_of_mem_toString {n : Int} {c : Char} (hc : c ∈ (toString n).toList) : isBare c := by
  rcases isDigit_or_of_mem_toString hc with hdigit | rfl
  · simp [isBare, Char.isAlphanum, hdigit]
  · rfl

theorem tokensFrom_bare {cs : List Char} (hcs : ∀ c ∈ cs, isBare c) (read rest : List Char) :
    tokensFrom (.bare read) (cs ++ rest) = tokensFrom (.bare (read ++ cs)) rest := by
  induction cs generalizing read with
  | nil => rw [List.nil_append, List.append_nil]
  | cons c cs ih =>
    have hc : step (.bare read) c = some ([], .bare (read ++ [c])) :=
      if_pos (hcs c List.mem_cons_self)
    rw [List.cons_append, tokensFrom_of_silent _ hc,
      ih (fun d hd => hcs d (List.mem_cons_of_mem _ hd)), List.append_assoc]
    rfl

theorem tokensFrom_bare_of_ends {read rest : List Char} {v : Json} (hread : scalar? read = some v)
    (hrest : Ends rest) :
    tokensFrom (.bare read) rest = (tokensFrom .between rest).map (.scalar v :: ·) := by
  cases rest with
  | nil => simp [tokensFrom, finish, hread]
  | cons c rest =>
    have hc : isBare c = false := hrest c rfl
    cases hbegin : begin c with
    | none => simp [tokensFrom, step, hc, hread, hbegin]
    | some p => simp [tokensFrom, step, hc, hread, hbegin, Function.comp_def]

theorem begin_of_isBare {c : Char} (h : isBare c) : begin c = some ([], .bare [c]) := by
  have hblank : ¬ isBlank c = true := by
    intro hblank
    simp only [isBlank, Bool.or_eq_true, decide_eq_true_eq] at hblank
    rcases hblank with ((rfl | rfl) | rfl) | rfl <;> exact absurd h (by decide)
  rw [begin, if_neg hblank, if_pos h]

/-- A number that something else follows is read back. -/
theorem tokensFrom_integer (n : Int) {rest : List Char} (hrest : Ends rest) :
    tokensFrom .between ((toString n).toList ++ rest) =
      (tokensFrom .between rest).map (.scalar (.integer n) :: ·) := by
  rw [← tokensFrom_bare_of_ends (scalar?_toString n) hrest]
  have hbare : ∀ c ∈ (toString n).toList, isBare c := fun _ hc => isBare_of_mem_toString hc
  cases hcs : (toString n).toList with
  | nil =>
    have := scalar?_toString n
    rw [hcs] at this
    cases this
  | cons c cs =>
    rw [hcs] at hbare
    have hc : step .between c = some ([], .bare [c]) := begin_of_isBare (hbare c List.mem_cons_self)
    rw [List.cons_append, tokensFrom_of_silent _ hc,
      tokensFrom_bare (fun d hd => hbare d (List.mem_cons_of_mem _ hd))]
    rfl

/-! ## Texts -/

theorem hexValue?_digitChar : ∀ d < 16, Toml.hexValue? (Nat.digitChar d) = some d := by decide

theorem tokensFrom_escapeUnit {n : Nat} (hn : n < 0x10000) (codes : List Nat) (rest : List Char) :
    tokensFrom (.text codes) (JsonValue.escapeUnit n ++ rest) =
      tokensFrom (.text (codes ++ [n])) rest := by
  have hdigit : ∀ m, Toml.hexValue? (Nat.digitChar (m % 16)) = some (m % 16) :=
    fun m => hexValue?_digitChar _ (Nat.mod_lt _ (by omega))
  have hlater : ∀ later sofar m, step (.unit codes (later + 1) sofar) (Nat.digitChar (m % 16)) =
      some ([], .unit codes later (16 * sofar + m % 16)) := by
    intro later sofar m
    rw [step, hdigit]
    rfl
  have hlast : ∀ sofar m, step (.unit codes 0 sofar) (Nat.digitChar (m % 16)) =
      some ([], .text (codes ++ [16 * sofar + m % 16])) := by
    intro sofar m
    rw [step, hdigit]
    rfl
  have hdigits : Text.hexDigits 4 n = [Nat.digitChar (n / 4096 % 16), Nat.digitChar (n / 256 % 16),
      Nat.digitChar (n / 16 % 16), Nat.digitChar (n / 1 % 16)] := rfl
  have hvalue : 16 * (16 * (16 * (16 * 0 + n / 4096 % 16) + n / 256 % 16) + n / 16 % 16) +
      n / 1 % 16 = n := by omega
  rw [JsonValue.escapeUnit, hdigits]
  simp only [List.cons_append, List.nil_append]
  rw [tokensFrom_of_silent (.escape codes) rfl,
    tokensFrom_of_silent (.unit codes 3 0) rfl, tokensFrom_of_silent _ (hlater 2 _ _),
    tokensFrom_of_silent _ (hlater 1 _ _), tokensFrom_of_silent _ (hlater 0 _ _),
    tokensFrom_of_silent _ (hlast _ _), hvalue]

theorem toNat_lt (c : Char) : c.toNat < 0x110000 := by
  have h : c.toNat.isValidChar := c.valid
  unfold Nat.isValidChar at h
  omega

theorem units_of_lt {c : Char} (h : c.toNat < 0x10000) : JsonValue.units c = [c.toNat] := if_pos h

theorem lt_of_mem_units {c : Char} {n : Nat} (hn : n ∈ JsonValue.units c) : n < 0x10000 := by
  have hc := toNat_lt c
  unfold JsonValue.units at hn
  split at hn
  · simp only [List.mem_singleton] at hn
    omega
  · simp only [List.mem_cons, List.not_mem_nil, or_false] at hn
    omega

theorem tokensFrom_escapeUnits {ns : List Nat} (hns : ∀ n ∈ ns, n < 0x10000) (codes : List Nat)
    (rest : List Char) :
    tokensFrom (.text codes) (ns.flatMap JsonValue.escapeUnit ++ rest) =
      tokensFrom (.text (codes ++ ns)) rest := by
  induction ns generalizing codes with
  | nil => rw [List.flatMap_nil, List.nil_append, List.append_nil]
  | cons n ns ih =>
    rw [List.flatMap_cons, List.append_assoc, tokensFrom_escapeUnit (hns n List.mem_cons_self),
      ih (fun m hm => hns m (List.mem_cons_of_mem _ hm)), List.append_assoc]
    rfl

theorem tokensFrom_escaped {e : Char} {n : Nat} (hu : e ≠ 'u') (h : escaped? e = some n)
    (codes : List Nat) (rest : List Char) :
    tokensFrom (.text codes) ('\\' :: e :: rest) = tokensFrom (.text (codes ++ [n])) rest := by
  have he : step (.escape codes) e = some ([], .text (codes ++ [n])) := by
    rw [step, if_neg hu, h]
    rfl
  rw [tokensFrom_of_silent (.escape codes) rfl, tokensFrom_of_silent _ he]

/-- However a character is written, its UTF-16 units are read. -/
theorem tokensFrom_escapeChar (c : Char) (codes : List Nat) (rest : List Char) :
    tokensFrom (.text codes) (JsonValue.escapeChar c ++ rest) =
      tokensFrom (.text (codes ++ JsonValue.units c)) rest := by
  have hletter : ∀ e, e ≠ 'u' → escaped? e = some c.toNat → c.toNat < 0x10000 →
      tokensFrom (.text codes) (['\\', e] ++ rest) =
        tokensFrom (.text (codes ++ JsonValue.units c)) rest := by
    intro e hu he hc
    rw [units_of_lt hc]
    exact tokensFrom_escaped hu he codes rest
  unfold JsonValue.escapeChar
  split
  · subst c; exact hletter '"' (by decide) rfl (by decide)
  split
  · subst c; exact hletter '\\' (by decide) rfl (by decide)
  split
  · subst c; exact hletter 'n' (by decide) rfl (by decide)
  split
  · subst c; exact hletter 'r' (by decide) rfl (by decide)
  split
  · subst c; exact hletter 't' (by decide) rfl (by decide)
  split
  · rename_i h; exact hletter 'b' (by decide) (by rw [h]; rfl) (by omega)
  split
  · rename_i h; exact hletter 'f' (by decide) (by rw [h]; rfl) (by omega)
  split
  · rename_i hquote hbackslash _ _ _ _ _ h
    simp only [Bool.and_eq_true, decide_eq_true_eq] at h
    have hc : step (.text codes) c = some ([], .text (codes ++ [c.toNat])) := by
      rw [step, if_neg hquote, if_neg hbackslash, if_neg (by omega)]
    rw [units_of_lt (by omega)]
    exact tokensFrom_of_silent _ hc rest
  · exact tokensFrom_escapeUnits (fun _ hn => lt_of_mem_units hn) codes rest

theorem tokensFrom_escapeChars (cs : List Char) (codes : List Nat) (rest : List Char) :
    tokensFrom (.text codes) (cs.flatMap JsonValue.escapeChar ++ rest) =
      tokensFrom (.text (codes ++ cs.flatMap JsonValue.units)) rest := by
  induction cs generalizing codes with
  | nil => rw [List.flatMap_nil, List.nil_append, List.flatMap_nil, List.append_nil]
  | cons c cs ih =>
    rw [List.flatMap_cons, List.append_assoc, tokensFrom_escapeChar, ih, List.flatMap_cons,
      List.append_assoc]

/-- The units of a character are put together again, also where there are two of them. -/
theorem characters?_units (c : Char) (rest : List Nat) :
    characters? (JsonValue.units c ++ rest) = (characters? rest).map (c :: ·) := by
  have hc := toNat_lt c
  by_cases hplain : c.toNat < 0x10000
  · have hvalid : c.toNat.isValidChar := c.valid
    rw [units_of_lt hplain, List.singleton_append, characters?.eq_def]
    simp only [hvalid, if_true, Char.ofNat_toNat]
  · have hhigh : ¬ (0xD800 + (c.toNat - 0x10000) / 0x400).isValidChar := by
      unfold Nat.isValidChar
      omega
    have hpair : paired? (0xD800 + (c.toNat - 0x10000) / 0x400)
        (0xDC00 + (c.toNat - 0x10000) % 0x400) = some c := by
      have hvalue : 0x10000 + (0xD800 + (c.toNat - 0x10000) / 0x400 - 0xD800) * 0x400 +
          (0xDC00 + (c.toNat - 0x10000) % 0x400 - 0xDC00) = c.toNat := by omega
      rw [paired?, if_pos (by omega), hvalue, Char.ofNat_toNat]
    rw [JsonValue.units, if_neg hplain]
    simp only [List.cons_append, List.nil_append]
    rw [characters?.eq_def]
    simp only [hhigh, if_false, hpair]
    cases characters? rest <;> rfl

theorem characters?_flatMap_units (cs : List Char) :
    characters? (cs.flatMap JsonValue.units) = some cs := by
  induction cs with
  | nil => rfl
  | cons c cs ih =>
    rw [List.flatMap_cons, characters?_units, ih]
    rfl

/-- A quoted text is read back. -/
theorem tokensFrom_quoted (s : String) (rest : List Char) :
    tokensFrom .between (JsonValue.quoted s ++ rest) =
      (tokensFrom .between rest).map (.text s :: ·) := by
  have hclose : step (.text (s.toList.flatMap JsonValue.units)) '"' =
      some ([.text s], .between) := by
    rw [step, if_pos rfl, characters?_flatMap_units, Option.map_some, String.ofList_toList]
  rw [JsonValue.quoted, List.cons_append, List.append_assoc,
    tokensFrom_of_silent (.text []) rfl, tokensFrom_escapeChars, List.nil_append]
  exact tokensFrom_of_step hclose rest

end Json

end CodeMetrics
