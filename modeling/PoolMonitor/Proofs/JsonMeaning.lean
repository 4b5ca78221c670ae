import Mathlib
import PoolMonitor.Proofs.JsonTexts
import PoolMonitor.Json.Read
/-!
# What a JSON text stands for

The value a JSON text stands for, read off its syntax tree (`JsonTexts`), the way a reader that
keeps to RFC 8259 and to the number classes of `Json.Value` takes it:

* a string stands for its characters, escapes replaced and a surrogate pair of `\u` escapes
  joined into one character; half a pair standing alone stands for nothing (`Syntax.chars`);
* a number without fraction or exponent that fits 64 bits keeps its class; any other stands for
  a double, from a significand of at most 64 bits (digits past it raise or are dropped from the
  power of ten) scaled once by a power of ten, and a double out of range stands for nothing
  (`Syntax.Number.value`);
* an object stands for its members sorted by name, the last of equal names kept
  (`Syntax.Members.toJson`);
* `Syntax.Value.depth` counts the arrays and objects a value opens, one inside another.
-/

namespace PoolMonitor.Json.Syntax

/-! ## Strings -/

/-- The character a one-letter escape stands for. -/
def Escape.meaning : Escape → Char
  | .quote => '"'
  | .backslash => '\\'
  | .slash => '/'
  | .backspace => '\x08'
  | .formFeed => '\x0c'
  | .lineFeed => '\n'
  | .carriageReturn => '\r'
  | .tab => '\t'

/-- The value of a hex digit. -/
def hexDigit (c : Char) : Nat := (hexValue? (byte c)).getD 0

/-- The code unit of four hex digits. -/
def hexWord (a b c d : Char) : Nat := ((hexDigit a * 16 + hexDigit b) * 16 + hexDigit c) * 16 + hexDigit d

/-- A piece as the characters of a string see it: a character, or the UTF-16 code unit a `\u`
escape gives. -/
def Piece.unit : Piece → Char ⊕ Nat
  | .plain c _ => .inl c
  | .escape e => .inl e.meaning
  | .unicode a b c d _ => .inr (hexWord a b c d)

/-- The first half of a surrogate pair. -/
def isHighSurrogate (n : Nat) : Bool := 0xD800 ≤ n && n ≤ 0xDBFF

/-- The second half of a surrogate pair. -/
def isLowSurrogate (n : Nat) : Bool := 0xDC00 ≤ n && n ≤ 0xDFFF

/-- The character of a surrogate pair. -/
def pairChar (high low : Nat) : Char := Char.ofNat ((high - 0xD800) * 0x400 + (low - 0xDC00) + 0x10000)

/-- The characters a string's pieces stand for: a surrogate pair of escapes is one character;
`none` when half a pair stands alone. -/
def chars : List Piece → Option (List Char)
  | [] => some []
  | p :: rest =>
    match p.unit with
    | .inl c => (chars rest).map (c :: ·)
    | .inr n =>
      if isLowSurrogate n then none
      else if !isHighSurrogate n then (chars rest).map (Char.ofNat n :: ·)
      else
        match rest with
        | q :: more =>
          match q.unit with
          | .inr m => if isLowSurrogate m then (chars more).map (pairChar n m :: ·) else none
          | .inl _ => none
        | [] => none

/-- The text a string stands for. -/
def stringValue (s : List Piece) : Option String := (chars s).map String.ofList

/-! ## Numbers -/

/-- The digits of a run, as numbers. -/
def Digits.values (ds : Digits) : List Nat := (ds.first :: ds.rest).map (·.val)

/-- Whole digits taken into a significand while it holds 64 bits: the significand, and how
many digits are left over, each of which raises the power of ten. -/
def wholeSig (sig : Nat) : List Nat → Nat × Nat
  | [] => (sig, 0)
  | d :: ds => if overflows sig d then (sig, ds.length + 1) else wholeSig (sig * 10 + d) ds

/-- The significand of a whole part and the digits left over. -/
def Whole.sig (w : Whole) : Nat × Nat :=
  match w.values with
  | [] => (0, 0)
  | d :: ds => wholeSig d ds

/-- Fraction digits taken into a significand while it holds 64 bits: the significand, and how
many digits it took; the others are dropped. -/
def fractionSig (sig taken : Nat) : List Nat → Nat × Nat
  | [] => (sig, taken)
  | d :: ds => if overflows sig d then (sig, taken) else fractionSig (sig * 10 + d) (taken + 1) ds

/-- An exponent's digits after the first, from `exp`; `none` once it passes 32 signed bits. -/
def exponentValue (exp : Nat) : List Nat → Option Nat
  | [] => some exp
  | d :: ds => if (exp * 10 + d : Int) > maxI32 then none else exponentValue (exp * 10 + d) ds

/-- The double `±sig · 10^exp` as the reader computes it; `none` when it is out of range. -/
def partsValue (positive : Bool) (sig : Nat) (exp : Int) : Option Float :=
  ((fromParts positive sig exp).run.run (Cursor.ofString "")).1.toOption

/-- A double from its significand, the power of ten so far, the exponent's direction and its
digits: an exponent past 32 bits makes zero, or nothing when it would make a number that is not
zero too large. -/
def exponentDigitsValue (positive : Bool) (sig : Nat) (before : Int) (up : Bool) (exp : Nat)
    (ds : List Nat) : Option Float :=
  match exponentValue exp ds with
  | some x => partsValue positive sig (clampI32 (if up then before + x else before - x))
  | none => if !(sig == 0) && up then none else some (if positive then 0.0 else -0.0)

/-- A double from its significand, the power of ten so far, and the exponent part. -/
def exponentPart (positive : Bool) (sig : Nat) (before : Int) : Option Exponent → Option Float
  | none => partsValue positive sig before
  | some e => exponentDigitsValue positive sig before (e.sign != .minus) e.digits.first.val
      (e.digits.rest.map (·.val))

/-- A double from the significand of the whole part, the power of ten its dropped digits make,
and the fraction and exponent parts. -/
def tailValue (positive : Bool) (sig : Nat) (before : Int) (fo : Option Digits)
    (eo : Option Exponent) : Option Float :=
  let frac := fractionSig sig 0 ((fo.map Digits.values).getD [])
  exponentPart positive frac.1 (before - frac.2) eo

/-- A whole number that fits 64 bits, by its sign: `-0` and numbers below `-2^63` are doubles. -/
def integerValue (positive : Bool) (sig : Nat) : Json.Number :=
  if positive then .unsigned sig
  else if 0 < sig ∧ sig ≤ Nat.pow 2 63 then .negative (-(sig : Int))
  else .float (-(sig.toUInt64.toFloat))

/-- A number from the significand of its whole part, the digits dropped from it, and its
fraction and exponent parts. -/
def numberValue (positive : Bool) (sig extra : Nat) (fo : Option Digits) (eo : Option Exponent) :
    Option Json.Number :=
  if fo.isNone && eo.isNone && extra == 0 then some (integerValue positive sig)
  else (tailValue positive sig extra fo eo).map .float

/-- **The number a token stands for**: a whole number without fraction or exponent that fits
64 bits keeps its class, any other is a double; `none` when the double is out of range. -/
def Number.value (n : Number) : Option Json.Number :=
  numberValue (!n.negative) n.whole.sig.1 n.whole.sig.2 n.fraction n.exponent

/-! ## Values -/

mutual

/-- **The value a JSON text stands for**; `none` when a string or a number in it stands for
nothing. -/
def Value.toJson : Value → Option Json.Value
  | .literal .null => some .null
  | .literal .true => some (.bool true)
  | .literal .false => some (.bool false)
  | .number n => n.value.map .number
  | .string s => (stringValue s).map .string
  | .emptyArray _ => some (.array [])
  | .array _ items => items.toJson.map .array
  | .emptyObject _ => some (.object [])
  | .object _ members => (members.toJson []).map .object

/-- The values of an array's items, in order. -/
def Items.toJson : Items → Option (List Json.Value)
  | .last v _ => v.toJson.map ([·])
  | .cons v _ _ rest => do
    let x ← v.toJson
    let xs ← rest.toJson
    pure (x :: xs)

/-- The members of an object put into the key-sorted `acc` one after another. -/
def Members.toJson : Members → List (String × Json.Value) → Option (List (String × Json.Value))
  | .last k _ v _, acc => do
    let name ← stringValue k.name
    let x ← v.toJson
    pure (Json.Value.insertMember name x acc)
  | .cons k _ v _ _ rest, acc => do
    let name ← stringValue k.name
    let x ← v.toJson
    rest.toJson (Json.Value.insertMember name x acc)

end

mutual

/-- How many arrays and objects a value opens, one inside another. -/
def Value.depth : Value → Nat
  | .emptyArray _ | .emptyObject _ => 1
  | .array _ items => items.depth + 1
  | .object _ members => members.depth + 1
  | _ => 0

def Items.depth : Items → Nat
  | .last v _ => v.depth
  | .cons v _ _ rest => max v.depth rest.depth

def Members.depth : Members → Nat
  | .last _ _ v _ => v.depth
  | .cons _ _ v _ _ rest => max v.depth rest.depth

end

end PoolMonitor.Json.Syntax
