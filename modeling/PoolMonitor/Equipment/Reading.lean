import PoolMonitor.Decimal.Layout
/-!
# Readings and events

A `Reading` is one measured or derived value of one piece of equipment: its category, the
equipment's id and display name, the number, the text shown for it, and labels. Its key is
`category:id`. The text shown for a number is the whole number for integral values below
10^15 in magnitude (`-0` for negative zero), and the shortest decimal otherwise, never with an
exponent.

An `Event` says that a key was first seen, that its text changed, that a poll changed nothing,
or that the state was rebuilt after a reconnection; each event names the source of the update
that caused it.
-/

namespace PoolMonitor.Equipment

/-- The kinds of reading. -/
inductive Category where
  | temperature
  | pumpSpeed
  | pumpPower
  | pumpFlow
  | circuit
  | thermal
  | feature
  | unknown
  deriving Repr, BEq, DecidableEq

/-- The category's name in keys. -/
def Category.name : Category → String
  | .temperature => "temperature"
  | .pumpSpeed => "pump_speed"
  | .pumpPower => "pump_power"
  | .pumpFlow => "pump_flow"
  | .circuit => "circuit"
  | .thermal => "thermal"
  | .feature => "feature"
  | .unknown => "unknown"

/-- The text shown for a number. -/
def formatValue (v : Float) : String :=
  if Decimal.isSmallIntegral v then Decimal.integral v else Decimal.Layout.plain.render v

/-- One value of one piece of equipment. -/
structure Reading where
  category : Category
  entityId : String
  displayName : String
  value : Float
  displayValue : String
  labels : List (String × String) := []
  deriving Repr

/-- A reading of a number, shown as `formatValue` shows it. -/
def Reading.new (category : Category) (entityId displayName : String) (value : Float) : Reading :=
  { category, entityId, displayName, value, displayValue := formatValue value }

/-- The reading shown as `text`. -/
def Reading.shownAs (r : Reading) (text : String) : Reading := { r with displayValue := text }

/-- The reading with one more label. -/
def Reading.withLabel (r : Reading) (k v : String) : Reading := { r with labels := r.labels ++ [(k, v)] }

/-- The reading's key. -/
def Reading.key (r : Reading) : String := r.category.name ++ ":" ++ r.entityId

/-- Where an update came from. -/
inductive Source where
  | push
  | poll
  deriving Repr, BEq, DecidableEq, Inhabited

/-- The tag of a source in event texts. -/
def Source.tag : Source → String
  | .push => "[PUSH]"
  | .poll => "[POLL]"

/-- What happened. -/
inductive EventKind where
  | detected (key value : String)
  | changed (key old new : String)
  | noChanges
  | resynchronized
  deriving Repr, BEq

/-- Something that happened, and the source of the update behind it. -/
structure Event where
  source : Source
  kind : EventKind
  deriving Repr, BEq

/-- The event as a line of text. -/
def Event.text (e : Event) : String :=
  match e.kind with
  | .detected k v => e.source.tag ++ " Detected " ++ k ++ " = " ++ v
  | .changed k o n => e.source.tag ++ " Changed " ++ k ++ ": " ++ o ++ " -> " ++ n
  | .noChanges => e.source.tag ++ " No changes"
  | .resynchronized => e.source.tag ++ " Resynchronized after reconnect"

end PoolMonitor.Equipment
