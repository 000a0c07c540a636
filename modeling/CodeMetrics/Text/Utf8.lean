/-!
# UTF-8

Bytes are read as UTF-8 strictly: no overlong forms, no surrogates, nothing
beyond the last code point.

* `Utf8.decode` — the text that bytes encode;
* `Utf8.firstFault?` — where and why bytes cease to be UTF-8;
* `Text.unifyLineEnds` — a text in which every sort of line end is a single line feed.
-/

namespace CodeMetrics

namespace Utf8

/-- Why bytes are not UTF-8. -/
inductive Reason where
  /-- A byte that no character starts with. -/
  | startByte
  /-- A byte that does not continue the character begun before it. -/
  | continuationByte
  /-- The bytes end within a character. -/
  | endOfData
deriving Repr, DecidableEq, Inhabited

/-- The wording of a reason. -/
def Reason.text : Reason → String
  | startByte => "invalid start byte"
  | continuationByte => "invalid continuation byte"
  | endOfData => "unexpected end of data"

/-- The first place where bytes are not UTF-8. -/
structure Fault where
  /-- Where the broken character starts. -/
  start : Nat
  /-- How many bytes are to blame. -/
  length : Nat
  /-- The byte at the start. -/
  byte : UInt8
  reason : Reason
deriving Repr, DecidableEq, Inhabited

/-- Whether a byte continues a character. -/
def isContinuation (b : UInt8) : Bool := 0x80 ≤ b && b < 0xC0

/-- Whether `b` can follow `a`, which starts a character of three bytes: no overlong forms and no
surrogates. -/
def followsThree (a b : UInt8) : Bool :=
  isContinuation b && !(a == 0xE0 && b < 0xA0) && !(a == 0xED && 0xA0 ≤ b)

/-- Whether `b` can follow `a`, which starts a character of four bytes: no overlong forms and
nothing beyond the last code point. -/
def followsFour (a b : UInt8) : Bool :=
  isContinuation b && !(a == 0xF0 && b < 0x90) && !(a == 0xF4 && 0x90 ≤ b)

/-- The first fault of bytes that start at a position. -/
def faultFrom? (pos : Nat) : List UInt8 → Option Fault
  | [] => none
  | a :: rest =>
      if a < 0x80 then faultFrom? (pos + 1) rest
      else if a < 0xC2 || 0xF5 ≤ a then some ⟨pos, 1, a, .startByte⟩
      else
        match rest with
        | [] => some ⟨pos, 1, a, .endOfData⟩
        | b :: rest =>
            if a < 0xE0 then
              if isContinuation b then faultFrom? (pos + 2) rest
              else some ⟨pos, 1, a, .continuationByte⟩
            else if !(if a < 0xF0 then followsThree a b else followsFour a b) then
              some ⟨pos, 1, a, .continuationByte⟩
            else
              match rest with
              | [] => some ⟨pos, 2, a, .endOfData⟩
              | c :: rest =>
                  if !isContinuation c then some ⟨pos, 2, a, .continuationByte⟩
                  else if a < 0xF0 then faultFrom? (pos + 3) rest
                  else
                    match rest with
                    | [] => some ⟨pos, 3, a, .endOfData⟩
                    | d :: rest =>
                        if isContinuation d then faultFrom? (pos + 4) rest
                        else some ⟨pos, 3, a, .continuationByte⟩

/-- The first fault of bytes. -/
def firstFault? (b : ByteArray) : Option Fault := faultFrom? 0 b.toList

/-- The text that bytes encode. -/
def decode (b : ByteArray) : Except Fault String :=
  match String.fromUTF8? b with
  | some s => .ok s
  | none => .error ((firstFault? b).getD default)

/-- The wording of a fault, with its place. -/
def Fault.message (f : Fault) : String :=
  let digit (n : Nat) : Char := Nat.digitChar n
  let place :=
    if f.length = 1 then
      let byte := String.ofList [digit (f.byte.toNat / 16), digit (f.byte.toNat % 16)]
      s!"byte 0x{byte} in position {f.start}"
    else s!"bytes in position {f.start}-{f.start + f.length - 1}"
  s!"'utf-8' codec can't decode {place}: {f.reason.text}"

end Utf8

namespace Text

/-- One character more of a text whose line ends are unified.  The flag says whether the character
before it was a carriage return, which has been written as a line feed already. -/
def unifyStep (done : String × Bool) (c : Char) : String × Bool :=
  if c = '\r' then (done.1.push '\n', true)
  else if c = '\n' && done.2 then (done.1, false)
  else (done.1.push c, false)

/-- Every carriage return, with the line feed after it if there is one, becomes a line feed. -/
def unifyLineEnds (s : String) : String := (s.toList.foldl unifyStep ("", false)).1

end Text

end CodeMetrics
