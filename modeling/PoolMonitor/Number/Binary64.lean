/-!
# Binary64 values as exact numbers

A finite double is `± m · 2^q` with `m < 2^53`. This module reads a double's bits into that
form and, the other way, finds the double nearest to a positive rational `num / den`, a tie
going to the even significand. Both directions are plain `Nat` arithmetic on the bits, so
text that reads or writes a double never passes through a float operation.

The encoding used for the nearest double: for a unit exponent `e ≥ -1074` and a significand
`q ≤ 2^53`, the bits `(e + 1074) · 2^52 + q` are the double `q · 2^e` whenever `q ≥ 2^52` or
`e = -1074`; one formula covers normal and subnormal values.
-/

namespace PoolMonitor.Binary64

/-- The three fields of a double's bit pattern. -/
structure Fields where
  /-- The sign bit. -/
  negative : Bool
  /-- The biased exponent field, below `2^11`. -/
  exponent : Nat
  /-- The fraction field, below `2^52`. -/
  fraction : Nat
  deriving Repr, BEq

/-- Split the bits of `x` into sign, exponent and fraction. -/
def fields (x : Float) : Fields :=
  let b := x.toBits.toNat
  { negative := b / Nat.pow 2 63 % 2 == 1, exponent := b / Nat.pow 2 52 % 2048, fraction := b % Nat.pow 2 52 }

/-- Whether the fields denote an infinity or a NaN. -/
def Fields.nonFinite (f : Fields) : Bool := f.exponent == 2047

/-- The significand `m` of a finite value `m · 2^q`. -/
def Fields.significand (f : Fields) : Nat :=
  if f.exponent = 0 then f.fraction else f.fraction + Nat.pow 2 52

/-- The exponent `q` of a finite value `m · 2^q`. -/
def Fields.power (f : Fields) : Int :=
  (if f.exponent = 0 then (1 : Int) else (f.exponent : Int)) - 1075

/-- Whether `x` is neither infinite nor NaN. -/
def isFinite (x : Float) : Bool := !(fields x).nonFinite

/-- Whether `x` is a NaN: every exponent bit set and a fraction that is not zero. -/
def isNaN (x : Float) : Bool := (fields x).nonFinite && (fields x).fraction != 0

/-- Whether the sign bit of `x` is set (also for `-0.0` and a negative NaN). -/
def signBit (x : Float) : Bool := (fields x).negative

/-- `n / d` rounded to the nearest whole number, a tie going to the even one. -/
def roundHalfEven (n d : Nat) : Nat :=
  let q := n / d
  let r := n % d
  if 2 * r < d then q
  else if 2 * r > d then q + 1
  else q + q % 2

/-- `num / den · 2^(-e)` for an integer `e`, as a fraction of naturals. -/
def scaleDown (num den : Nat) (e : Int) : Nat × Nat :=
  if e ≥ 0 then (num, den * Nat.pow 2 e.toNat) else (num * Nat.pow 2 (-e).toNat, den)

/-- The greatest `k` with `2^k ≤ num / den`, for `num, den > 0`. -/
def floorLog2 (num den : Nat) : Int :=
  let k : Int := (num.log2 : Int) - (den.log2 : Int)
  let (a, b) := scaleDown num den k
  if a ≥ b then k else k - 1

/-- The bit pattern of the magnitude nearest to `num / den` (ties to even), or of infinity
when that magnitude is beyond the largest finite double. -/
def nearestBits (num den : Nat) : Nat :=
  if num = 0 ∨ den = 0 then 0
  else
    let e0 : Int := max (floorLog2 num den - 52) (-1074)
    let (a, b) := scaleDown num den e0
    let q0 := roundHalfEven a b
    let (q, e) := if q0 = Nat.pow 2 53 then (Nat.pow 2 52, e0 + 1) else (q0, e0)
    if e + 1075 ≥ 2047 then 2047 * Nat.pow 2 52
    else (e + 1074).toNat * Nat.pow 2 52 + q

/-- The double nearest to `±num / den`, ties to the even significand; `num = 0` gives a zero
of the requested sign. -/
def ofRatio (negative : Bool) (num den : Nat) : Float :=
  Float.ofBits (UInt64.ofNat ((if negative then Nat.pow 2 63 else 0) + nearestBits num den))

/-- The infinity of the given sign. -/
def signedInfinity (negative : Bool) : Float :=
  Float.ofBits (UInt64.ofNat ((if negative then Nat.pow 2 63 else 0) + 2047 * Nat.pow 2 52))

/-- The number of decimal digits of `n` (one for zero). -/
def decimalLength (n : Nat) : Nat := (Nat.toDigits 10 n).length

/-- The double nearest to `±digits · 10^exp`. Values far outside the range of doubles are
settled by their digit count first, so no huge power of ten is ever built. -/
def ofDecimal (negative : Bool) (digits : Nat) (exp : Int) : Float :=
  let size : Int := (decimalLength digits : Int) + exp
  if digits = 0 then ofRatio negative 0 1
  -- at least 10^310: beyond every finite double
  else if size > 310 then signedInfinity negative
  -- below 10^-330: under half the least subnormal
  else if size < -330 then ofRatio negative 0 1
  else if exp ≥ 0 then ofRatio negative (digits * Nat.pow 10 exp.toNat) 1
  else ofRatio negative digits (Nat.pow 10 (-exp).toNat)

end PoolMonitor.Binary64

namespace PoolMonitor.Binary64

/-- `x` cut toward zero to a whole number and held within 64 signed bits; NaN gives zero. -/
def truncateToInt64 (x : Float) : Int :=
  let f := fields x
  let lo : Int := -9223372036854775808
  let hi : Int := 9223372036854775807
  if f.nonFinite then (if f.fraction ≠ 0 then 0 else if f.negative then lo else hi)
  else
    let num := if f.power ≥ 0 then f.significand * Nat.pow 2 f.power.toNat else f.significand
    let den := if f.power ≥ 0 then 1 else Nat.pow 2 (-f.power).toNat
    let t : Int := (num / den : Nat)
    max lo (min hi (if f.negative then -t else t))

end PoolMonitor.Binary64
