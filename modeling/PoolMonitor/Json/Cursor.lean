import PoolMonitor.Json.Error
import PoolMonitor.Number.Binary64
import PoolMonitor.Text.Utf8
/-!
# Reading JSON text: the cursor

A `Cursor` walks the UTF-8 bytes of a text. `Read` is a reading step: it may move the
cursor and may stop with an `Error`; a stopped step keeps the cursor where it stopped, which
matters because a decoder that catches an error places it at the cursor it sees then.

Two positions can be given to an error: the cursor itself (`fail`), or the byte after the one
under the cursor (`failAhead`), used when the byte under the cursor is the culprit.

Besides the primitives, this module reads the tokens of JSON:

* blanks (space, tab, line feed, carriage return);
* strings, with escapes and surrogate pairs, refusing control characters and lone surrogates;
* numbers: a whole number that fits 64 bits is kept whole; other numbers become a double
  computed as `significand · 10^exp` by one multiplication or division with a power of ten
  (no correct rounding), and digits past 64 bits of significand are dropped;
* skipping a whole value without building it, with the same errors but no limit on nesting
  and no range check on numbers.

Every loop walks forward over the bytes, so it runs at most once per remaining byte; the loops
take that count as their bound (`Cursor.budget`).
-/

namespace PoolMonitor.Json

open PoolMonitor.Binary64

/-- The bytes of a text and the reading position in them. -/
structure Cursor where
  /-- The UTF-8 bytes of the text. -/
  bytes : ByteArray
  /-- The index of the next byte to read. -/
  pos : Nat
  /-- How many more arrays and objects may open before nesting is refused. -/
  room : Nat

/-- A reading step. -/
abbrev Read := ExceptT Error (StateM Cursor)

/-- A cursor at the start of `s`, allowing nesting 127 deep. -/
def Cursor.ofString (s : String) : Cursor := ⟨s.toUTF8, 0, 128⟩

/-- One more than the bytes left: a bound on the steps of any loop from here. -/
def Cursor.budget (c : Cursor) : Nat := c.bytes.size - c.pos + 1

/-- Line and column of byte index `i`: lines count from 1, columns are bytes since the line
began. -/
def Cursor.lineColumn (c : Cursor) (i : Nat) : Nat × Nat :=
  let before := (c.bytes.extract 0 i).toList
  let newlines := before.foldl (fun (acc : Nat × Nat × Nat) b =>
    -- (newlines seen, index, index after the last newline)
    if b == 10 then (acc.1 + 1, acc.2.1 + 1, acc.2.1 + 1) else (acc.1, acc.2.1 + 1, acc.2.2))
    (0, 0, 0)
  (newlines.1 + 1, i - newlines.2.2)

/-- The byte of a character, for comparing with input bytes. -/
def byte (c : Char) : UInt8 := c.toNat.toUInt8

/-- An error with the position of byte index `i`. -/
def errorAt (i : Nat) (code : Code) : Read Error := do
  let (l, col) := (← get).lineColumn i
  return ⟨code, l, col⟩

/-- An error at the cursor. -/
def errorHere (code : Code) : Read Error := do errorAt (← get).pos code

/-- An error at the byte after the cursor (at the end, at the end). -/
def errorAhead (code : Code) : Read Error := do
  let c ← get
  errorAt (min (c.pos + 1) c.bytes.size) code

/-- Stop with an error at the cursor. -/
def fail {α : Type} (code : Code) : Read α := do throw (← errorHere code)

/-- Stop with an error at the byte after the cursor. -/
def failAhead {α : Type} (code : Code) : Read α := do throw (← errorAhead code)

/-- Give a position to an error raised without one: the cursor's, when it is caught. -/
def placed {α : Type} (step : Read α) : Read α :=
  tryCatch step fun e => do
    if e.line = 0 then throw (← errorHere e.code) else throw e

/-- Run a step and hand back its outcome; the cursor stays where the step left it. -/
def observe {α : Type} (step : Read α) : Read (Except Error α) :=
  tryCatch (.ok <$> step) fun e => pure (.error e)

/-- The byte under the cursor, if any. -/
def peek : Read (Option UInt8) := do
  let c ← get
  return c.bytes[c.pos]?

/-- Move past one byte. -/
def bump : Read Unit := modify fun c => { c with pos := c.pos + 1 }

/-- The byte under the cursor, moving past it. -/
def next : Read (Option UInt8) := do
  let b ← peek
  if b.isSome then bump
  return b

/-- The current loop bound. -/
def budget : Read Nat := do return (← get).budget

/-- The value of a decimal digit byte. -/
def digitValue? : Option UInt8 → Option Nat
  | some b => if 48 ≤ b.toNat ∧ b.toNat ≤ 57 then some (b.toNat - 48) else none
  | none => none

/-- Whether a byte is a JSON blank. -/
def isBlankByte (b : UInt8) : Bool := b == 32 || b == 10 || b == 9 || b == 13

/-- Skip blanks, at most `fuel` of them. -/
def skipBlankFor : Nat → Read (Option UInt8)
  | 0 => peek
  | fuel + 1 => do
    match ← peek with
    | some b => if isBlankByte b then do bump; skipBlankFor fuel else return some b
    | none => return none

/-- Skip blanks and show the byte after them. -/
def skipBlank : Read (Option UInt8) := do skipBlankFor (← budget)

/-- Move past the bytes of `word`; a different byte is an unknown identifier. -/
def expectWord : List UInt8 → Read Unit
  | [] => pure ()
  | w :: rest => do
    match ← next with
    | none => fail .eofWhileParsingValue
    | some b => if b == w then expectWord rest else fail .expectedSomeIdent

/-- Open a nested array or object: refused when nesting would reach the limit. -/
def enterNested : Read Unit := do
  let c ← get
  if c.room ≤ 1 then failAhead .recursionLimitExceeded
  set { c with room := c.room - 1 }

/-- Close a nested array or object. -/
def leaveNested : Read Unit := modify fun c => { c with room := c.room + 1 }

/-! ### Strings -/

/-- Append the UTF-8 bytes of code point `n` (a scalar value) to `acc`. -/
def pushCodePoint (acc : ByteArray) (n : Nat) : ByteArray :=
  acc ++ (Char.ofNat n).toString.toUTF8

/-- The value of a hexadecimal digit byte. -/
def hexValue? (b : UInt8) : Option Nat :=
  let n := b.toNat
  if 48 ≤ n ∧ n ≤ 57 then some (n - 48)
  else if 65 ≤ n ∧ n ≤ 70 then some (n - 55)
  else if 97 ≤ n ∧ n ≤ 102 then some (n - 87)
  else none

/-- Read four hex digits. Short input moves to the end and ends the string; a byte that is
no hex digit is an invalid escape, placed after all four. -/
def readHex4 : Read Nat := do
  let c ← get
  if c.pos + 4 ≤ c.bytes.size then
    set { c with pos := c.pos + 4 }
    let ds := (c.bytes.extract c.pos (c.pos + 4)).toList.map hexValue?
    match ds with
    | [some a, some b, some d, some e] => return ((a * 16 + b) * 16 + d) * 16 + e
    | _ => fail .invalidEscape
  else
    set { c with pos := c.bytes.size }
    fail .eofWhileParsingString

/-- Expect byte `b` inside a surrogate pair; anything else is moved past and ends the escape. -/
def expectInPair (b : UInt8) : Read Unit := do
  match ← peek with
  | none => fail .eofWhileParsingString
  | some x => if x == b then bump else do bump; fail .unexpectedEndOfHexEscape

/-- Read the rest of a `\u` escape: one code unit, or a surrogate pair. -/
def readUnicodeEscape (acc : ByteArray) : Read ByteArray := do
  let n ← readHex4
  if 0xDC00 ≤ n ∧ n ≤ 0xDFFF then fail .loneLeadingSurrogateInHexEscape
  else if n < 0xD800 ∨ n > 0xDBFF then return pushCodePoint acc n
  else
    expectInPair (byte '\\')
    expectInPair (byte 'u')
    let n2 ← readHex4
    if n2 < 0xDC00 ∨ n2 > 0xDFFF then fail .loneLeadingSurrogateInHexEscape
    else return pushCodePoint acc ((n - 0xD800) * 0x400 + (n2 - 0xDC00) + 0x10000)

/-- The byte a one-letter escape stands for. -/
def simpleEscape (b : UInt8) : Option UInt8 :=
  if b == byte '"' then some (byte '"')
  else if b == byte '\\' then some (byte '\\')
  else if b == byte '/' then some (byte '/')
  else if b == byte 'b' then some 8
  else if b == byte 'f' then some 12
  else if b == byte 'n' then some 10
  else if b == byte 'r' then some 13
  else if b == byte 't' then some 9
  else none

/-- Read an escape after its backslash. -/
def readEscape (acc : ByteArray) : Read ByteArray := do
  match ← next with
  | none => fail .eofWhileParsingString
  | some b =>
    match simpleEscape b with
    | some x => return acc.push x
    | none => if b == byte 'u' then readUnicodeEscape acc else fail .invalidEscape

/-- Read string bytes up to the closing quote, at most `fuel` steps. -/
def readStringFor (acc : ByteArray) : Nat → Read String
  | 0 => fail .eofWhileParsingString
  | fuel + 1 => do
    match ← peek with
    | none => fail .eofWhileParsingString
    | some b =>
      if b == byte '"' then do bump; return Text.Utf8.decodeLossy (acc.toList.map (·.toNat))
      else if b == byte '\\' then do
        bump
        let acc ← readEscape acc
        readStringFor acc fuel
      else if b < 0x20 then do bump; fail .controlCharacterWhileParsingString
      else do bump; readStringFor (acc.push b) fuel

/-- Read a string whose opening quote is behind the cursor. -/
def readString : Read String := do readStringFor ByteArray.empty (← budget)

/-- Check an escape after its backslash without keeping it. -/
def skipEscape : Read Unit := do
  match ← next with
  | none => fail .eofWhileParsingString
  | some b =>
    if (simpleEscape b).isSome then pure ()
    else if b == byte 'u' then do let _ ← readHex4; pure ()
    else fail .invalidEscape

/-- Skip string bytes up to the closing quote, at most `fuel` steps. -/
def skipStringFor : Nat → Read Unit
  | 0 => fail .eofWhileParsingString
  | fuel + 1 => do
    match ← peek with
    | none => fail .eofWhileParsingString
    | some b =>
      if b == byte '"' then bump
      else if b == byte '\\' then do bump; skipEscape; skipStringFor fuel
      else if b < 0x20 then fail .controlCharacterWhileParsingString
      else do bump; skipStringFor fuel

/-- Skip a string whose opening quote is behind the cursor. -/
def skipString : Read Unit := do skipStringFor (← budget)

/-! ### Numbers -/

/-- The largest value of 64 unsigned bits. -/
def maxU64 : Nat := Nat.pow 2 64 - 1

/-- The largest value of 32 signed bits. -/
def maxI32 : Int := 2147483647

/-- Clamp to 32 signed bits. -/
def clampI32 (n : Int) : Int := max (-2147483648) (min maxI32 n)

/-- Whether appending digit `d` to `sig` would leave 64 bits. -/
def overflows (sig d : Nat) : Bool := sig * 10 + d > maxU64

/-- The powers of ten `10^0 … 10^308`, each the double nearest to it. -/
def powersOfTen : Array Float := (List.range 309).toArray.map (fun k : Nat => ofDecimal false 1 (k : Int))

/-- Divide or multiply by 10^308 until a power of ten in the table remains: at most a few
steps, as the significand is below 2^64. -/
def scaleFor (positive : Bool) (f : Float) (exp : Int) : Nat → Read Float
  | 0 => return if positive then f else -f
  | fuel + 1 => do
    if exp.natAbs ≤ 308 then
      let p := powersOfTen.getD exp.natAbs 1
      if exp ≥ 0 then
        let g := f * p
        if !isFinite g then fail .numberOutOfRange
        return if positive then g else -g
      else
        let g := f / p
        return if positive then g else -g
    else if f == 0 then return if positive then f else -f
    else if exp ≥ 0 then fail .numberOutOfRange
    else scaleFor positive (f / powersOfTen.getD 308 1) (exp + 308) fuel

/-- The double `±sig · 10^exp`, by one rounding of `sig` and one multiplication or division. -/
def fromParts (positive : Bool) (sig : Nat) (exp : Int) : Read Float :=
  scaleFor positive sig.toUInt64.toFloat exp 8

/-- Skip digits, at most `fuel` of them. -/
def skipDigitsFor : Nat → Read Unit
  | 0 => pure ()
  | fuel + 1 => do
    match digitValue? (← peek) with
    | some _ => do bump; skipDigitsFor fuel
    | none => pure ()

/-- Skip a run of digits. -/
def skipDigits : Read Unit := do skipDigitsFor (← budget)

/-- The rest of an exponent whose digits overflowed 32 bits. -/
def exponentOverflow (positive zeroSig positiveExp : Bool) : Read Float := do
  if !zeroSig && positiveExp then fail .numberOutOfRange
  skipDigits
  return if positive then 0.0 else -0.0

/-- Exponent digits after the first, at most `fuel` of them. -/
def exponentDigitsFor (positive : Bool) (sig : Nat) (startExp : Int) (positiveExp : Bool)
    (exp : Nat) : Nat → Read Float
  | 0 => fromParts positive sig (clampI32 (if positiveExp then startExp + exp else startExp - exp))
  | fuel + 1 => do
    match digitValue? (← peek) with
    | some d =>
      bump
      if (exp * 10 + d : Int) > maxI32 then exponentOverflow positive (sig == 0) positiveExp
      else exponentDigitsFor positive sig startExp positiveExp (exp * 10 + d) fuel
    | none =>
      fromParts positive sig (clampI32 (if positiveExp then startExp + exp else startExp - exp))

/-- Read an exponent; the cursor is on the `e` or `E`. -/
def readExponent (positive : Bool) (sig : Nat) (startExp : Int) : Read Float := do
  bump
  let p ← peek
  let positiveExp ←
    if p == some (byte '+') then do bump; pure true
    else if p == some (byte '-') then do bump; pure false
    else pure true
  match ← next with
  | none => fail .eofWhileParsingValue
  | some b =>
    match digitValue? (some b) with
    | some d => exponentDigitsFor positive sig startExp positiveExp d (← budget)
    | none => fail .invalidNumber

/-- Whether the byte is an exponent mark. -/
def isExponentMark (b : Option UInt8) : Bool := b == some (byte 'e') || b == some (byte 'E')

/-- Fraction digits past 64 bits of significand are dropped. -/
def decimalOverflow (positive : Bool) (sig : Nat) (exp : Int) : Read Float := do
  skipDigits
  if isExponentMark (← peek) then readExponent positive sig exp else fromParts positive sig exp

/-- Fraction digits, at most `fuel` of them; `after` counts those taken, negated. -/
def fractionDigitsFor (positive : Bool) (sig : Nat) (before after : Int) : Nat → Read Float
  | 0 => fromParts positive sig (before + after)
  | fuel + 1 => do
    match digitValue? (← peek) with
    | some d =>
      if overflows sig d then decimalOverflow positive sig (before + after)
      else do bump; fractionDigitsFor positive (sig * 10 + d) before (after - 1) fuel
    | none =>
      if after = 0 then
        match ← peek with
        | some _ => failAhead .invalidNumber
        | none => failAhead .eofWhileParsingValue
      else if isExponentMark (← peek) then readExponent positive sig (before + after)
      else fromParts positive sig (before + after)

/-- Read a fraction; the cursor is on the point. -/
def readFraction (positive : Bool) (sig : Nat) (before : Int) : Read Float := do
  bump
  fractionDigitsFor positive sig before 0 (← budget)

/-- Whole digits past 64 bits of significand only raise the exponent. -/
def longIntegerFor (positive : Bool) (sig : Nat) (exp : Int) : Nat → Read Float
  | 0 => fromParts positive sig exp
  | fuel + 1 => do
    let p ← peek
    match digitValue? p with
    | some _ => do bump; longIntegerFor positive sig (exp + 1) fuel
    | none =>
      if p == some (byte '.') then readFraction positive sig exp
      else if isExponentMark p then readExponent positive sig exp
      else fromParts positive sig exp

/-- The number once its whole digits are read into `sig`. -/
def afterWholeDigits (positive : Bool) (sig : Nat) : Read Number := do
  let p ← peek
  if p == some (byte '.') then return .float (← readFraction positive sig 0)
  else if isExponentMark p then return .float (← readExponent positive sig 0)
  else if positive then return .unsigned sig
  else if 0 < sig ∧ sig ≤ Nat.pow 2 63 then return .negative (-(sig : Int))
  else return .float (-(sig.toUInt64.toFloat))

/-- Whole digits after the first, at most `fuel` of them. -/
def wholeDigitsFor (positive : Bool) (sig : Nat) : Nat → Read Number
  | 0 => afterWholeDigits positive sig
  | fuel + 1 => do
    match digitValue? (← peek) with
    | some d =>
      if overflows sig d then return .float (← longIntegerFor positive sig 0 (← budget))
      else do bump; wholeDigitsFor positive (sig * 10 + d) fuel
    | none => afterWholeDigits positive sig

/-- Read a number after its sign (if any): a leading zero stands alone. -/
def readNumber (positive : Bool) : Read Number := do
  match ← next with
  | none => fail .eofWhileParsingValue
  | some b =>
    match digitValue? (some b) with
    | some 0 =>
      if (digitValue? (← peek)).isSome then failAhead .invalidNumber
      else afterWholeDigits positive 0
    | some d => wholeDigitsFor positive d (← budget)
    | none => fail .invalidNumber

/-- Skip an exponent; the cursor is on the mark. -/
def skipExponent : Read Unit := do
  bump
  let p ← peek
  if p == some (byte '+') || p == some (byte '-') then bump
  match ← next with
  | some b => if (digitValue? (some b)).isSome then skipDigits else fail .invalidNumber
  | none => fail .invalidNumber

/-- Skip a fraction; the cursor is on the point. -/
def skipFraction : Read Unit := do
  bump
  if (digitValue? (← peek)).isNone then failAhead .invalidNumber
  skipDigits
  if isExponentMark (← peek) then skipExponent

/-- Skip a number after its sign (if any). -/
def skipNumber : Read Unit := do
  match ← next with
  | none => fail .invalidNumber
  | some b =>
    match digitValue? (some b) with
    | some 0 => if (digitValue? (← peek)).isSome then failAhead .invalidNumber
    | some _ => skipDigits
    | none => fail .invalidNumber
  let p ← peek
  if p == some (byte '.') then skipFraction
  else if isExponentMark p then skipExponent

/-! ### Skipping values -/

mutual

/-- Skip one value, at most `fuel` levels deep. -/
def skipValueFor : Nat → Read Unit
  | 0 => failAhead .eofWhileParsingValue
  | fuel + 1 => do
    match ← skipBlank with
    | none => failAhead .eofWhileParsingValue
    | some b =>
      if b == byte 'n' then do bump; expectWord [byte 'u', byte 'l', byte 'l']
      else if b == byte 't' then do bump; expectWord [byte 'r', byte 'u', byte 'e']
      else if b == byte 'f' then do bump; expectWord [byte 'a', byte 'l', byte 's', byte 'e']
      else if b == byte '-' then do bump; skipNumber
      else if (digitValue? (some b)).isSome then skipNumber
      else if b == byte '"' then do bump; skipString
      else if b == byte '[' then do
        bump
        match ← skipBlank with
        | some x => if x == byte ']' then bump else skipItemsFor fuel
        | none => failAhead .eofWhileParsingList
      else if b == byte '{' then do
        bump
        match ← skipBlank with
        | some x => if x == byte '}' then bump else skipMembersFor fuel
        | none => failAhead .eofWhileParsingObject
      else failAhead .expectedSomeValue

/-- Skip array items from the first one to the closing bracket. -/
def skipItemsFor : Nat → Read Unit
  | 0 => failAhead .eofWhileParsingList
  | fuel + 1 => do
    skipValueFor fuel
    match ← skipBlank with
    | some x =>
      if x == byte ',' then do bump; skipItemsFor fuel
      else if x == byte ']' then bump
      else failAhead .expectedListCommaOrEnd
    | none => failAhead .eofWhileParsingList

/-- Skip object members from the first key to the closing brace. -/
def skipMembersFor : Nat → Read Unit
  | 0 => failAhead .eofWhileParsingObject
  | fuel + 1 => do
    match ← skipBlank with
    | some x => if x == byte '"' then bump else failAhead .keyMustBeAString
    | none => failAhead .eofWhileParsingObject
    skipString
    match ← skipBlank with
    | some x => if x == byte ':' then bump else failAhead .expectedColon
    | none => failAhead .eofWhileParsingObject
    skipValueFor fuel
    match ← skipBlank with
    | some x =>
      if x == byte ',' then do bump; skipMembersFor fuel
      else if x == byte '}' then bump
      else failAhead .expectedObjectCommaOrEnd
    | none => failAhead .eofWhileParsingObject

end

/-- Skip one value of any kind. -/
def skipValue : Read Unit := do skipValueFor (← budget)

/-- The end of the text: only blanks may follow. -/
def expectEnd : Read Unit := do
  match ← skipBlank with
  | some _ => failAhead .trailingCharacters
  | none => pure ()

/-- Read the whole of `s` with `step`, refusing anything but blanks after it. -/
def readAll {α : Type} (step : Read α) (s : String) : Except Error α :=
  ((do let v ← step; expectEnd; return v : Read α).run.run (Cursor.ofString s)).1

end PoolMonitor.Json
