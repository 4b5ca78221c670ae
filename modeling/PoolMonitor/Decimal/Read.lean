import PoolMonitor.Number.Binary64
/-!
# Reading decimal text as a double

`readFloat?` reads the usual decimal notation of a double and rounds it correctly (to the
nearest double, a tie to even):

```
number   ::= sign? (special | digits)
special  ::= "inf" | "infinity" | "nan"          (in any case)
digits   ::= (d+ | d+ "." d* | d* "." d+) exponent?
exponent ::= ("e" | "E") sign? d+
sign     ::= "+" | "-"
```

Nothing else is allowed: no blanks, no digit separators, no hexadecimal. A value too large for
a double reads as an infinity, one too small as a zero of its sign. The exponent's digits are
read with a cap far beyond every digit count, so a huge exponent is settled by its size alone.
-/

namespace PoolMonitor.Decimal

open PoolMonitor.Binary64

/-- The value of a decimal digit. -/
def digit? (c : Char) : Option Nat := if c.isDigit then some (c.toNat - 48) else none

/-- The leading digits of `cs`: their value, their count and the rest. -/
def takeDigits : List Char → Nat × Nat × List Char
  | c :: rest =>
    match digit? c with
    | some d =>
      let (v, n, r) := takeDigits rest
      (d * Nat.pow 10 n + v, n + 1, r)
    | none => (0, 0, c :: rest)
  | [] => (0, 0, [])

/-- An exponent is capped here: far beyond the digits of any text read. -/
def exponentCap : Nat := Nat.pow 2 62

/-- Read an optional sign. -/
def takeSign : List Char → Bool × List Char
  | '+' :: rest => (false, rest)
  | '-' :: rest => (true, rest)
  | cs => (false, cs)

/-- Read the exponent part, if any: `some e` when the rest is a well-formed exponent or empty. -/
def readExponent? : List Char → Option Int
  | [] => some 0
  | c :: rest =>
    if c = 'e' ∨ c = 'E' then
      let (neg, r) := takeSign rest
      let (v, n, r) := takeDigits r
      if n = 0 ∨ !r.isEmpty then none
      else
        let v := min v exponentCap
        some (if neg then -(v : Int) else v)
    else none

/-- Whether the characters spell `word`, ignoring ASCII case. -/
def spells (cs : List Char) (word : String) : Bool :=
  cs.map Char.toLower == word.toList

/-- Read decimal text as a double, rounded correctly; `none` when it is not a number. -/
def readFloat? (s : String) : Option Float :=
  let (neg, cs) := takeSign s.toList
  if spells cs "inf" ∨ spells cs "infinity" then some (signedInfinity neg)
  else if spells cs "nan" then some (Float.ofBits 0x7FF8000000000000)
  else
    let (whole, wn, r) := takeDigits cs
    let (frac, fn, r) := match r with
      | '.' :: rest => takeDigits rest
      | _ => (0, 0, r)
    let hasPoint := match cs.drop wn with
      | '.' :: _ => true
      | _ => false
    if wn + fn = 0 then none
    else
      let r := if hasPoint ∧ fn = 0 then (cs.drop (wn + 1)) else r
      match readExponent? r with
      | none => none
      | some e => some (ofDecimal neg (whole * Nat.pow 10 fn + frac) (e - fn))

end PoolMonitor.Decimal
