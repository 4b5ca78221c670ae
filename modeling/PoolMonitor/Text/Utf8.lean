/-!
# Reading UTF-8 leniently

`decodeLossy` reads bytes as UTF-8 and puts the replacement character U+FFFD where the bytes
are not UTF-8: one replacement for each maximal prefix of a well-formed sequence that breaks
off (the recommended practice of the Unicode standard), and one for each byte that cannot start
a sequence. Valid input reads back as its characters.

The reader is a machine fed one byte at a time. Between characters it is `idle`; inside a
sequence it holds the bits read so far, the continuation bytes still owed, and the range the
next byte must lie in (the first continuation byte of some lead bytes has a narrower range,
which rules out overlong forms, surrogates and code points above U+10FFFF).
-/

namespace PoolMonitor.Text.Utf8

/-- Where the reader stands between two bytes. -/
inductive Reader where
  /-- Between characters. -/
  | idle
  /-- Inside a sequence: bits so far, continuation bytes owed, range of the next byte. -/
  | within (bits owed lo hi : Nat)
  deriving Repr, BEq

/-- For a lead byte: the continuation bytes it owes and the range of the first one. -/
def lead (b : Nat) : Option (Nat × Nat × Nat) :=
  if 0xC2 ≤ b ∧ b ≤ 0xDF then some (1, 0x80, 0xBF)
  else if b = 0xE0 then some (2, 0xA0, 0xBF)
  else if (0xE1 ≤ b ∧ b ≤ 0xEC) ∨ (0xEE ≤ b ∧ b ≤ 0xEF) then some (2, 0x80, 0xBF)
  else if b = 0xED then some (2, 0x80, 0x9F)
  else if b = 0xF0 then some (3, 0x90, 0xBF)
  else if 0xF1 ≤ b ∧ b ≤ 0xF3 then some (3, 0x80, 0xBF)
  else if b = 0xF4 then some (3, 0x80, 0x8F)
  else none

/-- The replacement character. -/
def replacement : Char := '\uFFFD'

/-- A byte read between characters: the characters it completes and the next state. -/
def start (b : Nat) : List Char × Reader :=
  if b < 0x80 then ([Char.ofNat b], .idle)
  else
    match lead b with
    | some (owed, lo, hi) => ([], .within (b % Nat.pow 2 (6 - owed)) owed lo hi)
    | none => ([replacement], .idle)

/-- Feed one byte. A byte that breaks a sequence off ends it with one replacement character
and is then read afresh between characters. -/
def feed : Reader → Nat → List Char × Reader
  | .idle, b => start b
  | .within bits owed lo hi, b =>
    if lo ≤ b ∧ b ≤ hi then
      let bits := bits * 64 + (b - 0x80)
      if owed ≤ 1 then ([Char.ofNat bits], .idle) else ([], .within bits (owed - 1) 0x80 0xBF)
    else
      let (out, next) := start b
      (replacement :: out, next)

/-- What the end of the input adds: a sequence cut off by it is one replacement character. -/
def finish : Reader → List Char
  | .idle => []
  | .within .. => [replacement]

/-- Read bytes from state `r` to the end. -/
def decodeFrom (r : Reader) : List Nat → List Char
  | [] => finish r
  | b :: rest =>
    let (out, next) := feed r b
    out ++ decodeFrom next rest

/-- The text of a byte list read as UTF-8, with replacement characters where it is not. -/
def decodeLossy (bytes : List Nat) : String := String.ofList (decodeFrom .idle bytes)

/-- The UTF-8 bytes of a text. -/
def bytesOf (s : String) : List Nat := s.toUTF8.data.toList.map (·.toNat)

end PoolMonitor.Text.Utf8
