import PoolMonitor.Data.Dict
/-!
# Tracking reported values

A `Tracker` remembers the last text reported under each key. Observing a value says whether
the key is new (detected before the first full snapshot, recorded after it), unchanged, or
changed from an older text, and remembers the value.
-/

namespace PoolMonitor.Equipment

/-- The last value reported under each key, and whether the first snapshot is complete. -/
structure Tracker where
  values : Dict String := Dict.empty
  initialDone : Bool := false
  deriving Inhabited, Repr

/-- What observing a value found. -/
inductive Observation where
  | detected
  | changed (old : String)
  | unchanged
  | recorded
  deriving Repr, BEq

namespace Tracker

/-- Observe `value` under `key`. -/
def observe (t : Tracker) (key value : String) : Observation × Tracker :=
  match t.values.get? key with
  | some prev =>
    if prev == value then (.unchanged, t)
    else (.changed prev, { t with values := t.values.insert key value })
  | none =>
    let t' := { t with values := t.values.insert key value }
    (if t.initialDone then .recorded else .detected, t')

/-- The first full snapshot is complete. -/
def markInitialDone (t : Tracker) : Tracker := { t with initialDone := true }

/-- The value under `key`. -/
def get? (t : Tracker) (key : String) : Option String := t.values.get? key

/-- The number of keys. -/
def size (t : Tracker) : Nat := t.values.size

/-- Forget everything. -/
def reset (_ : Tracker) : Tracker := {}

end Tracker

end PoolMonitor.Equipment
