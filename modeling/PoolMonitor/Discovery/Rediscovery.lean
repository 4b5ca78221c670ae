import PoolMonitor.Discovery.Address
/-!
# When to look for the controller again

A rediscovery controller counts consecutive failures of the link to the controller. Once the
count reaches the threshold (at least one) and looking again is enabled, it becomes active and
stays so until a reconnection succeeds; a success while inactive resets the count. An attempt
asks discovery for an address and compares its text with the current host's.
-/

namespace PoolMonitor.Discovery

/-- The state of the rediscovery controller. -/
structure Rediscovery where
  threshold : Nat
  enabled : Bool
  failures : Nat := 0
  active : Bool := false
  deriving Repr, BEq

/-- The largest value of 32 unsigned bits: the failure count stops there. -/
def maxFailures : Nat := Nat.pow 2 32 - 1

/-- A controller with the given threshold (raised to one) and switch. -/
def Rediscovery.new (threshold : Nat) (enabled : Bool) : Rediscovery :=
  { threshold := max threshold 1, enabled }

/-- One more failure. -/
def Rediscovery.recordFailure (r : Rediscovery) : Rediscovery :=
  let failures := min (r.failures + 1) maxFailures
  let active := r.active || (r.enabled && failures ≥ r.threshold)
  { r with failures, active }

@[simp] theorem Rediscovery.recordFailure_threshold (r : Rediscovery) :
    r.recordFailure.threshold = r.threshold := rfl
@[simp] theorem Rediscovery.recordFailure_enabled (r : Rediscovery) :
    r.recordFailure.enabled = r.enabled := rfl
@[simp] theorem Rediscovery.recordFailure_failures (r : Rediscovery) :
    r.recordFailure.failures = min (r.failures + 1) maxFailures := rfl
@[simp] theorem Rediscovery.recordFailure_active (r : Rediscovery) :
    r.recordFailure.active =
      (r.active || (r.enabled && decide (r.threshold ≤ min (r.failures + 1) maxFailures))) := rfl

/-- A success: the count restarts unless rediscovery is under way. -/
def Rediscovery.recordSuccess (r : Rediscovery) : Rediscovery :=
  if r.active then r else { r with failures := 0 }

@[simp] theorem Rediscovery.recordSuccess_threshold (r : Rediscovery) :
    r.recordSuccess.threshold = r.threshold := by
  unfold Rediscovery.recordSuccess; split <;> rfl
@[simp] theorem Rediscovery.recordSuccess_enabled (r : Rediscovery) :
    r.recordSuccess.enabled = r.enabled := by
  unfold Rediscovery.recordSuccess; split <;> rfl
@[simp] theorem Rediscovery.recordSuccess_active (r : Rediscovery) :
    r.recordSuccess.active = r.active := by
  unfold Rediscovery.recordSuccess; split <;> rfl
@[simp] theorem Rediscovery.recordSuccess_failures (r : Rediscovery) :
    r.recordSuccess.failures = if r.active then r.failures else 0 := by
  unfold Rediscovery.recordSuccess; split <;> rfl

/-- The outcome of a reconnection after rediscovery. -/
def Rediscovery.reconnected (r : Rediscovery) (ok : Bool) : Rediscovery :=
  if ok then { r with active := false, failures := 0 } else r

@[simp] theorem Rediscovery.reconnected_false (r : Rediscovery) : r.reconnected false = r := rfl
@[simp] theorem Rediscovery.reconnected_true_threshold (r : Rediscovery) :
    (r.reconnected true).threshold = r.threshold := rfl
@[simp] theorem Rediscovery.reconnected_true_enabled (r : Rediscovery) :
    (r.reconnected true).enabled = r.enabled := rfl
@[simp] theorem Rediscovery.reconnected_true_active (r : Rediscovery) :
    (r.reconnected true).active = false := rfl
@[simp] theorem Rediscovery.reconnected_true_failures (r : Rediscovery) :
    (r.reconnected true).failures = 0 := rfl

/-- What an attempt found. -/
inductive Outcome where
  | discoveryFailed
  | sameAddress
  | addressChanged (addr : Ipv4)
  deriving Repr, BEq

/-- Judge what discovery found against the current host. -/
def attemptOutcome (found : Option Ipv4) (current : String) : Outcome :=
  match found with
  | none => .discoveryFailed
  | some a => if a.toText == current then .sameAddress else .addressChanged a

/-- A call made on the controller: a failed or a successful cycle, how a reconnection went, or
an attempt with what discovery found (nothing when it failed) and the current host. -/
inductive Call where
  | failure
  | success
  | reconnected (ok : Bool)
  | attempt (found : Option Ipv4) (current : String)
  deriving Repr, DecidableEq

/-- A call on the controller: the controller after it, and the outcome of an attempt. An
attempt only judges what discovery found; the controller is left as it was. -/
def Rediscovery.call (r : Rediscovery) : Call → Rediscovery × Option Outcome
  | .failure => (r.recordFailure, none)
  | .success => (r.recordSuccess, none)
  | .reconnected ok => (r.reconnected ok, none)
  | .attempt found current => (r, some (attemptOutcome found current))

/-- The controller after a sequence of calls. -/
def Rediscovery.afterCalls (r : Rediscovery) (cs : List Call) : Rediscovery :=
  cs.foldl (fun r c => (r.call c).1) r

@[simp] theorem Rediscovery.afterCalls_nil (r : Rediscovery) : r.afterCalls [] = r := rfl

theorem Rediscovery.afterCalls_append (r : Rediscovery) (cs ds : List Call) :
    r.afterCalls (cs ++ ds) = (r.afterCalls cs).afterCalls ds := by
  simp [Rediscovery.afterCalls, List.foldl_append]

@[simp] theorem Rediscovery.afterCalls_concat (r : Rediscovery) (cs : List Call) (c : Call) :
    r.afterCalls (cs ++ [c]) = ((r.afterCalls cs).call c).1 := by
  simp [Rediscovery.afterCalls, List.foldl_append]

end PoolMonitor.Discovery
