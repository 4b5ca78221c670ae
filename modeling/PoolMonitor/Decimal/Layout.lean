import PoolMonitor.Decimal.Shortest
/-!
# Writing doubles as text

A `Layout` records the decisions of one way of writing a double, on top of the shortest
decimal (`Decimal.Shortest`): where positional notation gives way to an exponent, whether an
integral value keeps a `.0`, whether a positive exponent carries a `+`, and which way a tie
between two shortest decimals goes.

Two layouts are used. `Layout.data` writes numbers in data: positional while the first
significant digit stands at most sixteen places left of the point and at most four zeros
follow the point, `.0` on integral values, `e` with a signed exponent otherwise (`1e+16`,
`1.5e-7`), ties to even. `Layout.plain` writes numbers in messages: always positional, no
`.0`, ties up. Both write `NaN`, `inf` and `-inf` for the values that have no digits.

`integral` writes a double rounded to a whole number with all its digits, as a fixed format
with no places after the point does.
-/

namespace PoolMonitor.Decimal

open PoolMonitor.Binary64

/-- The decisions of one way of writing a double. -/
structure Layout where
  /-- The range of `k` (the digits before the point, negative for zeros after it) written
  positionally; `none` when every value is written positionally. -/
  positional : Option (Int × Int)
  /-- Whether an integral value is written with `.0`. -/
  pointZero : Bool
  /-- Whether an exponent that is not negative is written with `+`. -/
  plusExponent : Bool
  /-- How a tie between two shortest decimals is settled. -/
  tie : Tie

/-- Numbers in data: positional for `-4 ≤ k ≤ 16`, `.0` kept, `e+` before a positive
exponent, ties to even. -/
def Layout.data : Layout := ⟨some (-4, 16), true, true, .even⟩

/-- Numbers in messages: always positional, no `.0`, ties up. -/
def Layout.plain : Layout := ⟨none, false, false, .up⟩

/-- `n` zeros. -/
def zeros (n : Nat) : String := String.ofList (List.replicate n '0')

/-- The decimal text of an integer. -/
def intText (i : Int) : String := if i < 0 then "-" ++ toString i.natAbs else toString i.natAbs

/-- The text of the decimal `s`, without sign. -/
def Layout.body (L : Layout) (s : Scientific) : String :=
  let ds := toString s.digits
  let len : Int := ds.length
  let k := len + s.exp
  let positional := match L.positional with
    | none => true
    | some (lo, hi) => lo ≤ k ∧ k ≤ hi
  if positional then
    if s.exp ≥ 0 then ds ++ zeros s.exp.toNat ++ (if L.pointZero then ".0" else "")
    else if k > 0 then String.ofList (ds.toList.take k.toNat) ++ "." ++ String.ofList (ds.toList.drop k.toNat)
    else "0." ++ zeros (-k).toNat ++ ds
  else
    let mantissa :=
      if ds.length = 1 then ds
      else String.ofList (ds.toList.take 1) ++ "." ++ String.ofList (ds.toList.drop 1)
    mantissa ++ "e" ++ (if L.plusExponent ∧ k - 1 ≥ 0 then "+" else "") ++ intText (k - 1)

/-- The text of the double `x` in layout `L`. -/
def Layout.render (L : Layout) (x : Float) : String :=
  let f := fields x
  if f.nonFinite then
    if f.fraction ≠ 0 then "NaN" else if f.negative then "-inf" else "inf"
  else
    let sign := if f.negative then "-" else ""
    if f.exponent = 0 ∧ f.fraction = 0 then sign ++ (if L.pointZero then "0.0" else "0")
    else sign ++ L.body (shortestOfFields L.tie f)

/-- `x` rounded to a whole number (a tie to even) with all its digits and its sign, so that
`-0.0` gives `-0`. -/
def integral (x : Float) : String :=
  let f := fields x
  if f.nonFinite then
    if f.fraction ≠ 0 then "NaN" else if f.negative then "-inf" else "inf"
  else
    let (n, d) := scaled f.significand f.power 0
    (if f.negative then "-" else "") ++ toString (roundHalfEven n d)

/-- Whether the finite double `x` is a whole number of magnitude below `10^15`. -/
def isSmallIntegral (x : Float) : Bool :=
  let f := fields x
  if f.nonFinite then false
  else
    let (n, d) := scaled f.significand f.power 0
    n % d == 0 && n / d < Nat.pow 10 15

end PoolMonitor.Decimal
