import PoolMonitor.Number.Binary64
/-!
# Shortest decimals of a double

The shortest decimal of a finite nonzero double `v = m · 2^q` is the decimal with the fewest
significant digits that reads back as `v`. Reading back rounds to nearest, so the decimals that
read back as `v` are those in the interval between `v` and its two neighbours' midpoints; the
ends belong to it exactly when `m` is even, as a tie then rounds to `v`.

For `n = 1, 2, …` the search looks at the grid of `n`-digit decimals around `v`. If any point of
that grid lies in the interval, one of the two grid points next to `v` does, since the interval
holds `v`. The first grid with a hit gives the digit count; of two hits the one nearer to `v`
wins, and an exact tie is settled by a `Tie` rule. Seventeen digits always suffice.

All comparisons are exact: every quantity is a fraction of naturals `x · 2^a · 10^b`.
-/

namespace PoolMonitor.Decimal

open PoolMonitor.Binary64

/-- How to choose between two shortest decimals at the same distance from the value. -/
inductive Tie where
  /-- The one whose last digit is even. -/
  | even
  /-- The larger one. -/
  | up
  deriving Repr, BEq, DecidableEq

/-- A decimal `digits · 10^exp`; `digits` has no trailing zero unless it is zero. -/
structure Scientific where
  /-- The significant digits, as a number. -/
  digits : Nat
  /-- The power of ten of the last digit. -/
  exp : Int
  deriving Repr, BEq

/-- `2^k` as a fraction, also for negative `k`. -/
def pow2 (k : Int) : Nat × Nat := if k ≥ 0 then (Nat.pow 2 k.toNat, 1) else (1, Nat.pow 2 (-k).toNat)

/-- `10^k` as a fraction, also for negative `k`. -/
def pow10 (k : Int) : Nat × Nat := if k ≥ 0 then (Nat.pow 10 k.toNat, 1) else (1, Nat.pow 10 (-k).toNat)

/-- `x · 2^a · 10^b` as a fraction of naturals. -/
def scaled (x : Nat) (a b : Int) : Nat × Nat :=
  let p := pow2 a
  let t := pow10 b
  (x * p.1 * t.1, p.2 * t.2)

/-- Compare two fractions with nonzero denominators. -/
def cmpFrac (x y : Nat × Nat) : Ordering := compare (x.1 * y.2) (y.1 * x.2)

/-- The greatest `k` with `10^k ≤ n / d`, for `n, d > 0`. -/
def floorLog10 (n d : Nat) : Int :=
  if n ≥ d then (decimalLength (n / d) : Int) - 1
  else
    let k := decimalLength (d / n) - 1
    if n * Nat.pow 10 k = d then -(k : Int) else -((k : Int) + 1)

/-- Remove trailing zeros from the digits, raising the exponent to match. -/
def Scientific.normalize (s : Scientific) : Scientific :=
  if s.digits = 0 then s else go s.digits s.exp s.digits
where
  /-- Strip one zero per step; `fuel` bounds the steps by the size of the digits. -/
  go (d : Nat) (e : Int) : Nat → Scientific
    | 0 => ⟨d, e⟩
    | fuel + 1 => if d % 10 = 0 ∧ d ≠ 0 then go (d / 10) (e + 1) fuel else ⟨d, e⟩

/-- The interval of reals that read back as `m · 2^q`, in units of `2^(q-2)`: from `4m - lowGap`
to `4m + 2`, ends included when `inclusive`. The lower gap halves at the bottom of a binade. -/
structure Interval where
  /-- The significand of the value. -/
  m : Nat
  /-- The exponent of the value. -/
  q : Int
  /-- The distance to the lower end in units of `2^(q-2)`: 1 at the bottom of a binade, else 2. -/
  lowGap : Nat
  /-- Whether both ends read back as the value. -/
  inclusive : Bool

/-- The rounding interval of a finite nonzero double given by its fields. -/
def Interval.ofFields (f : Fields) : Interval :=
  { m := f.significand, q := f.power,
    lowGap := if f.fraction = 0 ∧ f.exponent > 1 then 1 else 2,
    inclusive := f.significand % 2 == 0 }

/-- Whether `c · 10^t` lies in the interval. -/
def Interval.holds (iv : Interval) (c : Nat) (t : Int) : Bool :=
  let x := scaled c 0 t
  let lo := cmpFrac x (scaled (4 * iv.m - iv.lowGap) (iv.q - 2) 0)
  let hi := cmpFrac x (scaled (4 * iv.m + 2) (iv.q - 2) 0)
  let aboveLo := lo == .gt || (lo == .eq && iv.inclusive)
  let belowHi := hi == .lt || (hi == .eq && iv.inclusive)
  aboveLo && belowHi

/-- The decimal of `n` significant digits chosen for the interval, if one reads back. -/
def Interval.candidate (iv : Interval) (tie : Tie) (e10 : Int) (n : Nat) : Option Scientific :=
  let t : Int := e10 + 1 - n
  -- the value divided by the grid step
  let (a, b) := scaled (4 * iv.m) (iv.q - 2) (-t)
  let c := a / b
  if a % b = 0 then some ⟨c, t⟩
  else
    match iv.holds c t, iv.holds (c + 1) t with
    | true, true =>
      match compare (2 * a) ((2 * c + 1) * b) with
      | .lt => some ⟨c, t⟩
      | .gt => some ⟨c + 1, t⟩
      | .eq =>
        match tie with
        | .even => some ⟨if c % 2 = 0 then c else c + 1, t⟩
        | .up => some ⟨c + 1, t⟩
    | true, false => some ⟨c, t⟩
    | false, true => some ⟨c + 1, t⟩
    | false, false => none

/-- Try `n, n + 1, …` digits, at most `fuel` counts. -/
def Interval.search (iv : Interval) (tie : Tie) (e10 : Int) (n : Nat) : Nat → Option Scientific
  | 0 => none
  | fuel + 1 =>
    match iv.candidate tie e10 n with
    | some s => some s
    | none => iv.search tie e10 (n + 1) fuel

/-- The shortest decimal that reads back as the finite nonzero double with these fields, the
nearest of those, and by `tie` when two are equally near. Seventeen digits always read back. -/
def shortestOfFields (tie : Tie) (f : Fields) : Scientific :=
  let iv := Interval.ofFields f
  let (n, d) := scaled (iv.m) iv.q 0
  let e10 := floorLog10 n d
  match iv.search tie e10 1 17 with
  | some s => s.normalize
  | none => (Scientific.mk iv.m 0).normalize

/-- The shortest decimal of the magnitude of `x`, for finite nonzero `x`. -/
def shortest (tie : Tie) (x : Float) : Scientific := shortestOfFields tie (fields x)

end PoolMonitor.Decimal
