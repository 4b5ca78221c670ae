import PoolMonitor.Number.Binary64
import PoolMonitor.Decimal.Shortest
/-!
# Durations

A `Duration` is a span of time in whole seconds and nanoseconds. `ofSecsFloat` turns a
non-negative number of seconds into the nearest whole number of nanoseconds, a tie going to
the even count; the value is taken exactly, with no float arithmetic. `toSecsFloat` goes back
with float arithmetic: seconds plus nanoseconds over 10^9.

`debugText` writes a duration in its largest fitting unit (`s`, `ms`, `µs`, `ns`) with as
many decimals as it needs: `10s`, `1.5s`, `250ms`, `0ns`.

An instant after a duration exists only while its seconds fit a signed 64-bit count
(`Duration.fitsAfter`).
-/

namespace PoolMonitor

open PoolMonitor.Binary64

/-- A span of time: whole seconds and the nanoseconds beyond them. -/
structure Duration where
  /-- Whole seconds. -/
  secs : Nat
  /-- Nanoseconds beyond the whole seconds, below `10^9`. -/
  nanos : Nat
  deriving Repr, BEq, DecidableEq, Inhabited

namespace Duration

/-- Nanoseconds in a second. -/
def nanosPerSec : Nat := 1000000000

/-- The duration of `n` nanoseconds. -/
def ofNanos (n : Nat) : Duration := ⟨n / nanosPerSec, n % nanosPerSec⟩

/-- The whole length in nanoseconds. -/
def toNanos (d : Duration) : Nat := d.secs * nanosPerSec + d.nanos

/-- The duration of `n` milliseconds. -/
def ofMillis (n : Nat) : Duration := ofNanos (n * 1000000)

/-- The duration of `n` seconds. -/
def ofSecs (n : Nat) : Duration := ⟨n, 0⟩

/-- No time. -/
def zero : Duration := ⟨0, 0⟩

/-- The length in milliseconds, rounded down. -/
def toMillis (d : Duration) : Nat := d.toNanos / 1000000

/-- The length in seconds as a double: seconds plus nanoseconds over 10^9. -/
def toSecsFloat (d : Duration) : Float :=
  d.secs.toUInt64.toFloat + d.nanos.toUInt64.toFloat / (1000000000 : Float)

/-- The nearest whole number of nanoseconds to a finite non-negative number of seconds below
2^64, a tie going to the even count. -/
def ofSecsFloat (x : Float) : Duration :=
  let f := fields x
  if f.nonFinite ∨ f.negative then zero
  else
    let (n, d) := Decimal.scaled f.significand f.power 9
    ofNanos (roundHalfEven n d)

/-- The digits of `frac` written with `width` places, trailing zeros removed. -/
def fractionDigits (frac width : Nat) : String :=
  let ds := (Nat.toDigits 10 frac)
  let padded := List.replicate (width - ds.length) '0' ++ ds
  String.ofList (padded.reverse.dropWhile (· = '0')).reverse

/-- A whole part, a fraction of `width` places, and a unit. -/
def unitText (whole frac width : Nat) (unit : String) : String :=
  toString whole ++ (if frac = 0 then "" else "." ++ fractionDigits frac width) ++ unit

/-- The duration in its largest fitting unit, with the decimals it needs. -/
def debugText (d : Duration) : String :=
  if d.secs > 0 then unitText d.secs d.nanos 9 "s"
  else if d.nanos ≥ 1000000 then unitText (d.nanos / 1000000) (d.nanos % 1000000) 6 "ms"
  else if d.nanos ≥ 1000 then unitText (d.nanos / 1000) (d.nanos % 1000) 3 "µs"
  else toString d.nanos ++ "ns"

instance : LE Duration := ⟨fun a b => a.toNanos ≤ b.toNanos⟩
instance : LT Duration := ⟨fun a b => a.toNanos < b.toNanos⟩
instance (a b : Duration) : Decidable (a ≤ b) := inferInstanceAs (Decidable (a.toNanos ≤ b.toNanos))
instance (a b : Duration) : Decidable (a < b) := inferInstanceAs (Decidable (a.toNanos < b.toNanos))

end Duration

/-! ## Instants

An instant is held as whole seconds and nanoseconds past the clock's origin, the seconds in a
signed 64-bit integer: adding a duration to an instant panics when the sum cannot be held. -/

/-- The most whole seconds an instant holds. -/
def maxInstantSecs : Nat := 9223372036854775807

/-- What adding a duration to an instant says when the sum cannot be held. -/
def instantOverflow : String := "overflow when adding duration to instant"

/-- Whether the instant `d` after the one `ms` milliseconds past the clock's origin can be
held. -/
def Duration.fitsAfter (d : Duration) (ms : Nat) : Bool :=
  decide ((ms * 1000000 + d.toNanos) / Duration.nanosPerSec ≤ maxInstantSecs)

end PoolMonitor
