import PoolMonitor.Time.Duration
/-!
# Retry delays

Before the `n`-th retry the connection waits `base · factor^(n-1)` (the first attempt counts as
the first retry), computed in doubles, and never longer than `max`: a product that is not
finite or not below `max` gives `max`, a negative one gives no wait. The power is taken by
repeated squaring, the way integer powers of doubles are usually computed, which can differ
from the exact power in the last bit.
-/

namespace PoolMonitor

/-- How connecting is retried and how often a live connection is checked. -/
structure RetryPolicy where
  maxRetries : Nat := 5
  baseDelay : Duration := Duration.ofSecs 1
  maxDelay : Duration := Duration.ofSecs 30
  backoffFactor : Float := 2.0
  healthCheckInterval : Duration := Duration.ofSecs 30
  deriving Inhabited

/-- `r · a^b` by squaring: each bit of `b` from the lowest multiplies `r` by the current square. -/
def powStep (a r : Float) (b : Nat) : Float :=
  let r := if b % 2 = 1 then r * a else r
  if b / 2 = 0 then r else powStep (a * a) r (b / 2)
termination_by b
decreasing_by omega

/-- `a^b` for an integer `b`, by repeated squaring; a negative power is the reciprocal. -/
def powInt (a : Float) (b : Int) : Float :=
  if b < 0 then 1 / powStep a 1 b.natAbs else powStep a 1 b.natAbs

/-- The largest value of 32 signed bits. -/
def maxExponent : Nat := Nat.pow 2 31 - 1

/-- The wait before retry number `attempt`. -/
def RetryPolicy.delay (p : RetryPolicy) (attempt : Nat) : Duration :=
  let exponent := min (max attempt 1 - 1) maxExponent
  let secs := p.baseDelay.toSecsFloat * powInt p.backoffFactor exponent
  if !Binary64.isFinite secs || secs >= p.maxDelay.toSecsFloat then p.maxDelay
  else Duration.ofSecsFloat (if secs < 0 then 0 else secs)

end PoolMonitor
