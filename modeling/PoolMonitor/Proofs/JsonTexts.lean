import Mathlib
import PoolMonitor.Json.Cursor
import PoolMonitor.Text.Blank
/-!
# JSON texts

The texts a JSON reader has to take, as syntax trees. A tree renders to its characters
(`text`), to their UTF-8 bytes (`bytes`), and to one mark per byte (`marks`) telling whether
input may end right before that byte and still be seen as cut short. Such cuts all fall inside
number tokens: a number followed by nothing may be a whole shorter number, and one that stops
after its minus, its point or its exponent mark is a malformed one.

Blanks stay in the tree wherever the grammar of RFC 8259 allows them between tokens, so every
JSON text renders from a tree. A string holds characters from U+0020 on other than the quote
and the backslash, and escapes: a backslash and one of eight letters, or `\u` and four hex
digits.

* `bytes_eq_utf8` ties the bytes to the characters, and `length_marks` the marks to the bytes;
* `text_head` and `text_last` give the characters a value starts and ends with, none of them a
  blank.
-/

namespace PoolMonitor.Json.Syntax

open PoolMonitor.Json (byte)

/-- The UTF-8 bytes of characters. -/
def utf8 (cs : List Char) : List UInt8 := cs.flatMap String.utf8EncodeChar

@[simp] theorem utf8_nil : utf8 [] = [] := rfl

@[simp] theorem utf8_append (cs ds : List Char) : utf8 (cs ++ ds) = utf8 cs ++ utf8 ds :=
  List.flatMap_append

theorem utf8_cons (c : Char) (cs : List Char) :
    utf8 (c :: cs) = String.utf8EncodeChar c ++ utf8 cs := rfl

/-- An ASCII character is one byte, itself. -/
theorem utf8EncodeChar_ascii {c : Char} (h : c.toNat < 0x80) :
    String.utf8EncodeChar c = [byte c] := by
  simp only [String.utf8EncodeChar, byte, Char.toNat] at h ⊢
  rw [if_pos (by omega)]

/-- ASCII characters are their own bytes. -/
theorem utf8_ascii {cs : List Char} (h : ∀ c ∈ cs, c.toNat < 0x80) : utf8 cs = cs.map byte := by
  induction cs with
  | nil => rfl
  | cons c cs ih =>
    rw [utf8_cons, utf8EncodeChar_ascii (h c (by simp)), ih fun d hd => h d (by simp [hd])]
    rfl

/-! ## Tokens -/

/-- A blank between tokens. -/
inductive Space where
  | space
  | tab
  | lineFeed
  | carriageReturn
  deriving DecidableEq, Repr

def Space.char : Space → Char
  | .space => ' '
  | .tab => '\t'
  | .lineFeed => '\n'
  | .carriageReturn => '\r'

def blankText (w : List Space) : List Char := w.map Space.char

def blankBytes (w : List Space) : List UInt8 := w.map fun s => byte s.char

/-- The three names. -/
inductive Literal where
  | null
  | true
  | false
  deriving DecidableEq, Repr

def Literal.text : Literal → List Char
  | .null => ['n', 'u', 'l', 'l']
  | .true => ['t', 'r', 'u', 'e']
  | .false => ['f', 'a', 'l', 's', 'e']

def digitChar (d : Fin 10) : Char := Char.ofNat (48 + d)

/-- A non-empty run of decimal digits. -/
structure Digits where
  first : Fin 10
  rest : List (Fin 10)
  deriving DecidableEq, Repr

def Digits.text (ds : Digits) : List Char := (ds.first :: ds.rest).map digitChar

/-- The whole part of a number: a zero alone, or digits that do not start with zero. -/
inductive Whole where
  | zero
  | digits (first : Fin 10) (rest : List (Fin 10)) (nonzero : first ≠ 0)
  deriving DecidableEq

def Whole.text : Whole → List Char
  | .zero => ['0']
  | .digits first rest _ => (first :: rest).map digitChar

/-- The digits of a whole part as numbers; none for the zero alone. -/
def Whole.values : Whole → List Nat
  | .zero => []
  | .digits first rest _ => (first :: rest).map (·.val)

/-- The sign of an exponent, if it is written. -/
inductive Sign where
  | none
  | plus
  | minus
  deriving DecidableEq, Repr

def Sign.text : Sign → List Char
  | .none => []
  | .plus => ['+']
  | .minus => ['-']

structure Exponent where
  /-- Written `E` rather than `e`. -/
  capital : Bool
  sign : Sign
  digits : Digits
  deriving DecidableEq

def Exponent.text (e : Exponent) : List Char :=
  (if e.capital then 'E' else 'e') :: (e.sign.text ++ e.digits.text)

/-- A number token: an optional minus, the whole part, an optional fraction, an optional
exponent. -/
structure Number where
  negative : Bool
  whole : Whole
  fraction : Option Digits
  exponent : Option Exponent
  deriving DecidableEq

/-- A fraction, if there is one: a point and digits. -/
def fractionText (fo : Option Digits) : List Char := (fo.map fun f => '.' :: f.text).getD []

def exponentText (eo : Option Exponent) : List Char := (eo.map Exponent.text).getD []

/-- A number after its minus: the whole part, the fraction, the exponent. -/
def Number.unsigned (n : Number) : List Char :=
  n.whole.text ++ fractionText n.fraction ++ exponentText n.exponent

def Number.text (n : Number) : List Char := (if n.negative then ['-'] else []) ++ n.unsigned

/-- Whether a byte could go on a number token: a digit, a point or an exponent mark. -/
def continuesNumber (b : UInt8) : Bool :=
  (48 ≤ b.toNat && b.toNat ≤ 57) || b == byte '.' || b == byte 'e' || b == byte 'E'

/-- Whether bytes can follow a number token without going on with it. -/
def endsNumber : List UInt8 → Bool
  | [] => true
  | b :: _ => !continuesNumber b

/-- The letter of a one-letter escape. -/
inductive Escape where
  | quote
  | backslash
  | slash
  | backspace
  | formFeed
  | lineFeed
  | carriageReturn
  | tab
  deriving DecidableEq, Repr

def Escape.char : Escape → Char
  | .quote => '"'
  | .backslash => '\\'
  | .slash => '/'
  | .backspace => 'b'
  | .formFeed => 'f'
  | .lineFeed => 'n'
  | .carriageReturn => 'r'
  | .tab => 't'

/-- Whether a character is a hex digit: `0` to `9`, `a` to `f`, `A` to `F`. -/
def isHexChar (c : Char) : Bool :=
  (48 ≤ c.toNat && c.toNat ≤ 57) || (97 ≤ c.toNat && c.toNat ≤ 102) ||
    (65 ≤ c.toNat && c.toNat ≤ 70)

/-- A character that stands for itself in a string: no control character, quote or backslash. -/
def isPlainChar (c : Char) : Bool := decide (0x20 ≤ c.toNat) && c != '"' && c != '\\'

/-- One character of a string's contents, as written. -/
inductive Piece where
  | plain (c : Char) (h : isPlainChar c = true)
  | escape (e : Escape)
  | unicode (a b c d : Char) (h : [a, b, c, d].all isHexChar = true)

def Piece.text : Piece → List Char
  | .plain c _ => [c]
  | .escape e => ['\\', e.char]
  | .unicode a b c d _ => ['\\', 'u', a, b, c, d]

def Piece.bytes : Piece → List UInt8
  | .plain c _ => String.utf8EncodeChar c
  | .escape e => [byte '\\', byte e.char]
  | .unicode a b c d _ => [byte '\\', byte 'u', byte a, byte b, byte c, byte d]

def stringText (s : List Piece) : List Char := '"' :: s.flatMap Piece.text ++ ['"']

def stringBytes (s : List Piece) : List UInt8 := byte '"' :: s.flatMap Piece.bytes ++ [byte '"']

/-- What comes before an object member's value: the name, blanks, the colon. -/
structure Key where
  name : List Piece
  beforeColon : List Space

def Key.text (k : Key) : List Char := stringText k.name ++ blankText k.beforeColon ++ [':']

def Key.bytes (k : Key) : List UInt8 := stringBytes k.name ++ blankBytes k.beforeColon ++ [byte ':']

/-! ## Values -/

mutual

/-- A JSON value, with the blanks inside it. A non-empty array or object keeps the blanks
before its first item or member. -/
inductive Value where
  | literal (l : Literal)
  | number (n : Number)
  | string (s : List Piece)
  | emptyArray (inner : List Space)
  | array (before : List Space) (items : Items)
  | emptyObject (inner : List Space)
  | object (before : List Space) (members : Members)

/-- The items of a non-empty array from the first one on: each item, the blanks after it, and
after a comma the blanks before the next. -/
inductive Items where
  | last (v : Value) (after : List Space)
  | cons (v : Value) (after next : List Space) (rest : Items)

/-- The members of a non-empty object from the first name on, laid out as items are. -/
inductive Members where
  | last (key : Key) (before : List Space) (v : Value) (after : List Space)
  | cons (key : Key) (before : List Space) (v : Value) (after next : List Space) (rest : Members)

end

/-- Strings, arrays and objects end themselves; numbers and names need something after them. -/
def Value.delimited : Value → Bool
  | .literal _ | .number _ => false
  | _ => true

mutual

def Value.text : Value → List Char
  | .literal l => l.text
  | .number n => n.text
  | .string s => stringText s
  | .emptyArray w => '[' :: blankText w ++ [']']
  | .array w items => '[' :: blankText w ++ items.text ++ [']']
  | .emptyObject w => '{' :: blankText w ++ ['}']
  | .object w members => '{' :: blankText w ++ members.text ++ ['}']

def Items.text : Items → List Char
  | .last v a => v.text ++ blankText a
  | .cons v a n rest => v.text ++ blankText a ++ ',' :: blankText n ++ rest.text

def Members.text : Members → List Char
  | .last k b v a => k.text ++ blankText b ++ v.text ++ blankText a
  | .cons k b v a n rest =>
    k.text ++ blankText b ++ v.text ++ blankText a ++ ',' :: blankText n ++ rest.text

end

mutual

def Value.bytes : Value → List UInt8
  | .literal l => l.text.map byte
  | .number n => n.text.map byte
  | .string s => stringBytes s
  | .emptyArray w => byte '[' :: blankBytes w ++ [byte ']']
  | .array w items => byte '[' :: blankBytes w ++ items.bytes ++ [byte ']']
  | .emptyObject w => byte '{' :: blankBytes w ++ [byte '}']
  | .object w members => byte '{' :: blankBytes w ++ members.bytes ++ [byte '}']

def Items.bytes : Items → List UInt8
  | .last v a => v.bytes ++ blankBytes a
  | .cons v a n rest => v.bytes ++ blankBytes a ++ byte ',' :: blankBytes n ++ rest.bytes

def Members.bytes : Members → List UInt8
  | .last k b v a => k.bytes ++ blankBytes b ++ v.bytes ++ blankBytes a
  | .cons k b v a n rest =>
    k.bytes ++ blankBytes b ++ v.bytes ++ blankBytes a ++ byte ',' :: blankBytes n ++ rest.bytes

end

/-- Where a number token inside an array or an object may not be cut: right after a character
that is no digit (its minus, its point, its exponent mark or the exponent's sign). After a digit
the characters so far make a shorter number, and the input ends inside the array or object. -/
def Number.marks (n : Number) : List Bool := false :: n.text.dropLast.map fun ch => !ch.isDigit

/-- Unmarked bytes. -/
def clear (n : Nat) : List Bool := List.replicate n false

mutual

/-- For each byte of a value inside an array or an object, whether the input may not end right
before it. -/
def Value.marks : Value → List Bool
  | .literal l => clear l.text.length
  | .number n => n.marks
  | .string s => clear (stringBytes s).length
  | .emptyArray w => clear (w.length + 2)
  | .array w items => clear (w.length + 1) ++ items.marks ++ [false]
  | .emptyObject w => clear (w.length + 2)
  | .object w members => clear (w.length + 1) ++ members.marks ++ [false]

def Items.marks : Items → List Bool
  | .last v a => v.marks ++ clear a.length
  | .cons v a n rest => v.marks ++ clear (a.length + 1 + n.length) ++ rest.marks

def Members.marks : Members → List Bool
  | .last k b v a => clear (k.bytes.length + b.length) ++ v.marks ++ clear a.length
  | .cons k b v a n rest =>
    clear (k.bytes.length + b.length) ++ v.marks ++ clear (a.length + 1 + n.length) ++ rest.marks

end

/-- The marks of a value read on its own, outside any array or object. A number that runs to the
end of the input is whole there, so no byte of a number after its first may be cut from it. -/
def Value.topMarks : Value → List Bool
  | .number n => false :: List.replicate (n.text.length - 1) true
  | v => v.marks

/-! ## Bytes and characters -/

theorem digitChar_toNat (d : Fin 10) : (digitChar d).toNat = 48 + d := by
  unfold digitChar
  rw [Char.toNat_ofNat, if_pos (by omega)]

/-- Every character of a number is ASCII. -/
theorem number_ascii (n : Number) : ∀ c ∈ n.text, c.toNat < 0x80 := by
  have hdigits : ∀ (l : List (Fin 10)), ∀ c ∈ l.map digitChar, c.toNat < 0x80 := by
    intro l c hc
    obtain ⟨d, -, rfl⟩ := List.mem_map.mp hc
    rw [digitChar_toNat]
    omega
  have hwhole : ∀ c ∈ n.whole.text, c.toNat < 0x80 := by
    cases n.whole with
    | zero => simp [Whole.text]
    | digits first rest _ => exact hdigits _
  intro c hc
  simp only [Number.text, Number.unsigned, fractionText, exponentText, List.mem_append] at hc
  rcases hc with hs | ((hw | hf) | he)
  · cases n.negative <;> simp_all
  · exact hwhole c hw
  · cases hfr : n.fraction with
    | none => simp [hfr] at hf
    | some f =>
      simp only [hfr, Option.map_some, Option.getD_some, List.mem_cons] at hf
      rcases hf with rfl | hf
      · simp
      · exact hdigits _ c hf
  · cases hex : n.exponent with
    | none => simp [hex] at he
    | some e =>
      simp only [hex, Option.map_some, Option.getD_some, Exponent.text, List.mem_cons,
        List.mem_append] at he
      have hsign : ∀ c ∈ e.sign.text, c.toNat < 0x80 := by
        cases e.sign <;> simp [Sign.text]
      rcases he with rfl | (hs | hd)
      · split <;> simp
      · exact hsign c hs
      · exact hdigits _ c hd

theorem literal_ascii (l : Literal) : ∀ c ∈ l.text, c.toNat < 0x80 := by
  cases l <;> simp [Literal.text]

theorem isHexChar_ascii {c : Char} (h : isHexChar c = true) : c.toNat < 0x80 := by
  simp only [isHexChar, Bool.or_eq_true, Bool.and_eq_true, decide_eq_true_eq] at h
  omega

theorem utf8_blankText (w : List Space) : utf8 (blankText w) = blankBytes w := by
  rw [blankText, utf8_ascii (by intro c hc; obtain ⟨s, -, rfl⟩ := List.mem_map.mp hc; cases s <;> simp [Space.char]),
    List.map_map]
  rfl

theorem utf8_pieces (s : List Piece) : utf8 (s.flatMap Piece.text) = s.flatMap Piece.bytes := by
  induction s with
  | nil => rfl
  | cons p s ih =>
    rw [List.flatMap_cons, List.flatMap_cons, utf8_append, ih]
    congr 1
    cases p with
    | plain c _ => exact List.append_nil _
    | escape e => cases e <;> rfl
    | unicode a b c d h =>
      simp only [List.all_cons, List.all_nil, Bool.and_true, Bool.and_eq_true] at h
      rw [Piece.text, Piece.bytes, utf8_ascii]
      · rfl
      · intro x hx
        simp only [List.mem_cons, List.not_mem_nil, or_false] at hx
        rcases hx with rfl | rfl | rfl | rfl | rfl | rfl
        · simp
        · simp
        · exact isHexChar_ascii h.1
        · exact isHexChar_ascii h.2.1
        · exact isHexChar_ascii h.2.2.1
        · exact isHexChar_ascii h.2.2.2

theorem utf8_stringText (s : List Piece) : utf8 (stringText s) = stringBytes s := by
  rw [stringText, utf8_append, utf8_cons, utf8_pieces]
  rfl

theorem utf8_keyText (k : Key) : utf8 k.text = k.bytes := by
  simp only [Key.text, Key.bytes, utf8_append, utf8_blankText, utf8_stringText]
  rfl

mutual

/-- **The bytes of a value are the UTF-8 of its characters.** -/
theorem Value.bytes_eq_utf8 : ∀ v : Value, v.bytes = utf8 v.text
  | .literal l => by rw [Value.bytes, Value.text, utf8_ascii (literal_ascii l)]
  | .number n => by rw [Value.bytes, Value.text, utf8_ascii (number_ascii n)]
  | .string s => by rw [Value.bytes, Value.text, utf8_stringText]
  | .emptyArray w => by
    simp only [Value.bytes, Value.text, utf8_append, utf8_cons, utf8_blankText]
    rfl
  | .array w items => by
    simp only [Value.bytes, Value.text, utf8_append, utf8_cons, utf8_blankText,
      ← items.bytes_eq_utf8]
    rfl
  | .emptyObject w => by
    simp only [Value.bytes, Value.text, utf8_append, utf8_cons, utf8_blankText]
    rfl
  | .object w members => by
    simp only [Value.bytes, Value.text, utf8_append, utf8_cons, utf8_blankText,
      ← members.bytes_eq_utf8]
    rfl

theorem Items.bytes_eq_utf8 : ∀ items : Items, items.bytes = utf8 items.text
  | .last v a => by simp only [Items.bytes, Items.text, utf8_append, utf8_blankText, ← v.bytes_eq_utf8]
  | .cons v a n rest => by
    simp only [Items.bytes, Items.text, utf8_append, utf8_cons, utf8_blankText,
      ← v.bytes_eq_utf8, ← rest.bytes_eq_utf8]
    rfl

theorem Members.bytes_eq_utf8 : ∀ members : Members, members.bytes = utf8 members.text
  | .last k b v a => by
    simp only [Members.bytes, Members.text, utf8_append, utf8_keyText, utf8_blankText,
      ← v.bytes_eq_utf8]
  | .cons k b v a n rest => by
    simp only [Members.bytes, Members.text, utf8_append, utf8_cons, utf8_keyText, utf8_blankText,
      ← v.bytes_eq_utf8, ← rest.bytes_eq_utf8]
    rfl

end

/-! ## Marks -/

theorem Number.unsigned_ne_nil (n : Number) : n.unsigned ≠ [] := by
  have hwhole : n.whole.text ≠ [] := by
    cases n.whole <;> simp [Whole.text]
  simp [Number.unsigned, hwhole]

theorem Number.text_ne_nil (n : Number) : n.text ≠ [] := by
  simp [Number.text, n.unsigned_ne_nil]

@[simp] theorem length_clear (n : Nat) : (clear n).length = n := List.length_replicate

theorem Number.length_marks (n : Number) : n.marks.length = n.text.length := by
  have := List.length_pos_of_ne_nil n.text_ne_nil
  rw [Number.marks, List.length_cons, List.length_map, List.length_dropLast]
  omega

mutual

/-- **A value has one mark per byte.** -/
theorem Value.length_marks : ∀ v : Value, v.marks.length = v.bytes.length
  | .literal l => by simp [Value.marks, Value.bytes]
  | .number n => by simp [Value.marks, Value.bytes, n.length_marks]
  | .string s => by simp [Value.marks, Value.bytes]
  | .emptyArray w => by simp [Value.marks, Value.bytes, blankBytes]
  | .array w items => by
    simp [Value.marks, Value.bytes, blankBytes, items.length_marks]
    omega
  | .emptyObject w => by simp [Value.marks, Value.bytes, blankBytes]
  | .object w members => by
    simp [Value.marks, Value.bytes, blankBytes, members.length_marks]
    omega

theorem Items.length_marks : ∀ items : Items, items.marks.length = items.bytes.length
  | .last v a => by simp [Items.marks, Items.bytes, blankBytes, v.length_marks]
  | .cons v a n rest => by
    simp [Items.marks, Items.bytes, blankBytes, v.length_marks, rest.length_marks]
    omega

theorem Members.length_marks : ∀ members : Members, members.marks.length = members.bytes.length
  | .last k b v a => by
    simp [Members.marks, Members.bytes, blankBytes, v.length_marks]
    omega
  | .cons k b v a n rest => by
    simp [Members.marks, Members.bytes, blankBytes, v.length_marks, rest.length_marks]
    omega

end

theorem Value.length_topMarks (v : Value) : v.topMarks.length = v.bytes.length := by
  cases v
  case number n =>
    have := List.length_pos_of_ne_nil n.text_ne_nil
    simp only [Value.topMarks, Value.bytes, List.length_cons, List.length_replicate, List.length_map]
    omega
  all_goals exact Value.length_marks _

/-! ## Numbers cut after a digit

Inside an array or an object a cut may fall in a number right after a digit, because the
characters so far make a number of their own: a whole part cut short, or a fraction or an
exponent with fewer digits. -/

/-- Characters that end with a digit, or no characters at all. -/
def EndsInDigit (cs : List Char) : Prop := ∀ ch ∈ cs.getLast?, ch.isDigit = true

theorem EndsInDigit.right {cs ds : List Char} (h : EndsInDigit (cs ++ ds)) : EndsInDigit ds := by
  intro ch hch
  apply h
  rw [List.getLast?_append, Option.mem_def.mp hch]
  rfl

theorem Digits.exists_take (ds : Digits) {k : Nat} (hk : 0 < k) :
    ∃ ds' : Digits, ds'.text = ds.text.take k := by
  obtain ⟨k, rfl⟩ : ∃ m, k = m + 1 := ⟨k - 1, by omega⟩
  exact ⟨⟨ds.first, ds.rest.take k⟩, by simp [Digits.text, List.map_take]⟩

theorem Whole.exists_take (w : Whole) {k : Nat} (hk : 0 < k) :
    ∃ w' : Whole, w'.text = w.text.take k := by
  obtain ⟨k, rfl⟩ : ∃ m, k = m + 1 := ⟨k - 1, by omega⟩
  cases w with
  | zero => exact ⟨.zero, by simp [Whole.text]⟩
  | digits first rest h => exact ⟨.digits first (rest.take k) h, by simp [Whole.text, List.map_take]⟩

/-- A fraction cut before its point or after one of its digits is a fraction, or none. -/
theorem exists_fractionText_take (fo : Option Digits) {k : Nat}
    (hd : k < (fractionText fo).length → EndsInDigit ((fractionText fo).take k)) :
    ∃ fo', fractionText fo' = (fractionText fo).take k := by
  cases fo with
  | none => exact ⟨none, by simp [fractionText]⟩
  | some f =>
    rcases k with _ | _ | k
    · exact ⟨none, by simp [fractionText]⟩
    · -- right after the point
      have := hd (by simp [fractionText, Digits.text]) '.' (by simp [fractionText])
      exact absurd this (by decide)
    · obtain ⟨f', hf'⟩ := f.exists_take (k := k + 1) (by omega)
      exact ⟨some f', by simp [fractionText, hf']⟩

/-- An exponent cut before its mark or after one of its digits is an exponent, or none. -/
theorem exists_exponentText_take (eo : Option Exponent) {k : Nat}
    (hd : k < (exponentText eo).length → EndsInDigit ((exponentText eo).take k)) :
    ∃ eo', exponentText eo' = (exponentText eo).take k := by
  cases eo with
  | none => exact ⟨none, by simp [exponentText]⟩
  | some e =>
    obtain ⟨capital, sign, ds⟩ := e
    have hds : 0 < ds.text.length := by simp [Digits.text]
    rcases k with _ | _ | k
    · exact ⟨none, by simp [exponentText]⟩
    · -- right after the mark
      have h1 := hd (by simp [exponentText, Exponent.text]; omega)
      simp only [exponentText, Exponent.text, Option.map_some, Option.getD_some, Nat.zero_add,
        List.take_succ_cons, List.take_zero] at h1
      cases capital
      · exact absurd (h1 'e' rfl) (by decide)
      · exact absurd (h1 'E' rfl) (by decide)
    · -- after the mark: the sign, if it is written, then the digits
      rcases Nat.lt_or_ge k sign.text.length with hk | hk
      · -- right after the sign
        have h1 := hd (by simp [exponentText, Exponent.text]; omega)
        simp only [exponentText, Exponent.text, Option.map_some, Option.getD_some,
          List.take_succ_cons, List.take_append] at h1
        cases sign with
        | none => simp [Sign.text] at hk
        | plus =>
          obtain rfl : k = 0 := by simp [Sign.text] at hk; omega
          exact absurd (h1 '+' rfl) (by decide)
        | minus =>
          obtain rfl : k = 0 := by simp [Sign.text] at hk; omega
          exact absurd (h1 '-' rfl) (by decide)
      · obtain ⟨ds', hds'⟩ := ds.exists_take (k := k + 1 - sign.text.length) (by omega)
        refine ⟨some ⟨capital, sign, ds'⟩, ?_⟩
        simp only [exponentText, Exponent.text, Option.map_some, Option.getD_some,
          List.take_succ_cons, List.take_append, hds', List.take_of_length_le (show sign.text.length ≤ k + 1 by omega)]

theorem Number.exists_take_unsigned (n : Number) {j : Nat} (hj : 0 < j)
    (hd : j < n.unsigned.length → EndsInDigit (n.unsigned.take j)) :
    ∃ n' : Number, n'.negative = n.negative ∧ n'.unsigned = n.unsigned.take j := by
  obtain ⟨negative, whole, fo, eo⟩ := n
  simp only [Number.unsigned] at hd ⊢
  -- the cut falls in the whole part, the fraction or the exponent; each part is cut at its place
  have htake : (whole.text ++ fractionText fo ++ exponentText eo).take j =
      whole.text.take j ++ (fractionText fo).take (j - whole.text.length) ++
        (exponentText eo).take (j - whole.text.length - (fractionText fo).length) := by
    rw [List.take_append, List.take_append, List.length_append, Nat.sub_sub]
  obtain ⟨w', hw'⟩ := whole.exists_take hj
  obtain ⟨fo', hfo'⟩ := exists_fractionText_take fo (k := j - whole.text.length) fun hlt => by
    have h := hd (by simp; omega)
    rw [htake, Nat.sub_eq_zero_of_le (show j - whole.text.length ≤ (fractionText fo).length by omega),
      List.take_zero, List.append_nil] at h
    exact h.right
  obtain ⟨eo', heo'⟩ := exists_exponentText_take eo
    (k := j - whole.text.length - (fractionText fo).length) fun hlt => by
      have h := hd (by simp; omega)
      rw [htake] at h
      exact h.right
  exact ⟨⟨negative, w', fo', eo'⟩, rfl, by simp only [htake, hw', hfo', heo']⟩

/-- **A number cut right after a digit is a number.** -/
theorem Number.exists_take (n : Number) {i : Nat} (hi : 0 < i)
    (hd : i < n.text.length → EndsInDigit (n.text.take i)) :
    ∃ n' : Number, n'.text = n.text.take i := by
  cases hn : n.negative
  · have ht : n.text = n.unsigned := by simp [Number.text, hn]
    rw [ht] at hd ⊢
    obtain ⟨n', hneg, hu⟩ := n.exists_take_unsigned hi hd
    exact ⟨n', by simp [Number.text, hneg, hn, hu]⟩
  · have ht : n.text = '-' :: n.unsigned := by simp [Number.text, hn]
    rw [ht] at hd ⊢
    obtain ⟨j, rfl⟩ : ∃ j, i = j + 1 := ⟨i - 1, by omega⟩
    rcases Nat.eq_zero_or_pos j with rfl | hj
    · -- right after the minus
      have := hd (by simpa using List.length_pos_of_ne_nil n.unsigned_ne_nil) '-' (by simp)
      exact absurd this (by decide)
    · obtain ⟨n', hneg, hu⟩ := n.exists_take_unsigned hj fun hlt =>
        (show EndsInDigit (['-'] ++ n.unsigned.take j) from hd (by simp; omega)).right
      exact ⟨n', by simp [Number.text, hneg, hn, hu]⟩

/-- Where a number inside an array or an object may be cut, the characters before the cut end
with a digit. -/
theorem Number.endsInDigit_of_marks {n : Number} {i : Nat} (hi : i < n.text.length)
    (hm : n.marks[i]? ≠ some true) : EndsInDigit (n.text.take i) := by
  cases i with
  | zero => simp [EndsInDigit]
  | succ j =>
    intro ch hch
    rw [List.getLast?_take, if_neg (by omega), Nat.add_sub_cancel,
      List.getElem?_eq_getElem (by omega), Option.some_or] at hch
    obtain rfl := Option.mem_def.mp hch |> Option.some.inj
    rw [Number.marks, List.getElem?_cons_succ, List.getElem?_map, List.getElem?_dropLast,
      if_pos (by omega), List.getElem?_eq_getElem (by omega)] at hm
    simpa using hm

/-! ## The ends of a value -/

open PoolMonitor.Text (isBlank)

theorem isBlank_digitChar : ∀ d : Fin 10, isBlank (digitChar d) = false := by decide +kernel

theorem Number.text_head? (n : Number) : n.text.head?.map isBlank = some false := by
  cases hn : n.negative
  · cases hw : n.whole with
    | zero =>
      simp only [Number.text, Number.unsigned, hn, hw, Whole.text, Bool.false_eq_true, if_false,
        List.nil_append, List.cons_append, List.head?_cons]
      decide +kernel
    | digits first rest _ =>
      simp [Number.text, Number.unsigned, hn, hw, Whole.text, isBlank_digitChar]
  · simp only [Number.text, hn, if_true, List.cons_append, List.nil_append, List.head?_cons]
    decide +kernel

theorem Digits.text_getLast? (ds : Digits) :
    ∃ d, ds.text.getLast? = some (digitChar d) := by
  obtain ⟨d, hd⟩ := Option.isSome_iff_exists.mp
    (List.getLast?_isSome.mpr (List.cons_ne_nil ds.first ds.rest))
  exact ⟨d, by rw [Digits.text, List.getLast?_map, hd]; rfl⟩

/-- A number ends with the last digit of its exponent, else of its fraction, else of its whole
part. -/
theorem Number.unsigned_getLast? (n : Number) : ∃ d, n.unsigned.getLast? = some (digitChar d) := by
  cases he : n.exponent with
  | some e =>
    obtain ⟨d, hd⟩ := e.digits.text_getLast?
    refine ⟨d, ?_⟩
    rw [Number.unsigned, exponentText, he, Option.map_some, Option.getD_some, List.getLast?_append,
      Exponent.text, List.getLast?_cons, List.getLast?_append, hd]
    rfl
  | none =>
    cases hf : n.fraction with
    | some f =>
      obtain ⟨d, hd⟩ := f.text_getLast?
      refine ⟨d, ?_⟩
      rw [Number.unsigned, exponentText, fractionText, he, hf]
      simp only [Option.map_some, Option.getD_some, Option.map_none, Option.getD_none,
        List.append_nil, List.getLast?_append, List.getLast?_cons, hd]
      rfl
    | none =>
      cases hw : n.whole with
      | zero => exact ⟨0, by simp [Number.unsigned, fractionText, exponentText, he, hf, hw, Whole.text]; decide⟩
      | digits first rest _ =>
        obtain ⟨d, hd⟩ := (Digits.mk first rest).text_getLast?
        exact ⟨d, by simpa [Number.unsigned, fractionText, exponentText, he, hf, hw, Whole.text,
          Digits.text] using hd⟩

theorem Number.text_getLast? (n : Number) : n.text.getLast?.map isBlank = some false := by
  obtain ⟨d, hd⟩ := n.unsigned_getLast?
  rw [Number.text, List.getLast?_append, hd, Option.some_or, Option.map_some, isBlank_digitChar]

/-- **A value starts with a character that is no blank.** -/
theorem Value.text_head? (v : Value) : v.text.head?.map isBlank = some false := by
  cases v with
  | literal l => cases l <;> (simp only [Value.text, Literal.text]; decide +kernel)
  | number n => exact n.text_head?
  | _ =>
    simp only [Value.text, stringText, List.cons_append, List.head?_cons]
    decide +kernel

/-- **A value ends with a character that is no blank.** -/
theorem Value.text_getLast? (v : Value) : v.text.getLast?.map isBlank = some false := by
  cases v with
  | literal l => cases l <;> (simp only [Value.text, Literal.text]; decide +kernel)
  | number n => exact n.text_getLast?
  | _ =>
    simp only [Value.text, stringText, List.getLast?_append, List.getLast?_singleton, Option.some_or]
    decide +kernel

end PoolMonitor.Json.Syntax
