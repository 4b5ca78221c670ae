import PoolMonitor.Text.Blank
import PoolMonitor.Text.Lower
import PoolMonitor.Text.Infix
import PoolMonitor.Text.Quoted
import PoolMonitor.Data.Dict
import PoolMonitor.Decimal.Read
/-!
# Classifying equipment readings

The controller reports status as text. A status is on when, blanks trimmed, it reads `ON` in
any ASCII case. A number is decimal text, blanks trimmed, that reads as a finite double.

A heater's thermal status follows its body's heat mode: mode 0 is idle when the water is within
the set points and off otherwise, modes 1 and 4 heat, mode 9 cools, any other mode is off. A
heater that no body names takes its status from the body whose name it contains (or which
contains its name), lower-cased, bodies taken in name order; without such a body, from its own
status text.

A circuit is on, off, or on for freeze protection (on while the controller protects against
freezing and the circuit takes part). A circuit whose name mentions heat follows the heating of
the first body whose name it contains. A feature is shown when its flag ends in `w`. A body's
heater assignment is the trimmed text unless it is empty or all zeros.
-/

namespace PoolMonitor.Equipment

open PoolMonitor.Text

/-- What a heater is doing. The order (off, idle, cooling, heating) ranks how much a heater is
doing, for a heater shared by bodies. -/
inductive ThermalStatus where
  | off
  | idle
  | cooling
  | heating
  deriving Repr, BEq, DecidableEq, Inhabited

namespace ThermalStatus

/-- The rank in the order off, idle, cooling, heating. -/
def rank : ThermalStatus → Nat
  | .off => 0
  | .idle => 1
  | .cooling => 2
  | .heating => 3

/-- The status's name. -/
def name : ThermalStatus → String
  | .off => "Off"
  | .idle => "Idle"
  | .cooling => "Cooling"
  | .heating => "Heating"

/-- The number reported for the status. -/
def value : ThermalStatus → Float
  | .off => 0.0
  | .heating => 1.0
  | .idle => 2.0
  | .cooling => 3.0

/-- Whether the heater heats. -/
def isHeating (s : ThermalStatus) : Bool := s == .heating

end ThermalStatus

/-- What a circuit is doing. -/
inductive CircuitStatus where
  | off
  | on
  | freezeProtected
  deriving Repr, BEq, DecidableEq, Inhabited

namespace CircuitStatus

/-- The status's name. -/
def name : CircuitStatus → String
  | .off => "Off"
  | .on => "On"
  | .freezeProtected => "On (freeze)"

/-- The number reported for the status. -/
def value : CircuitStatus → Float
  | .off => 0.0
  | .on => 1.0
  | .freezeProtected => 2.0

end CircuitStatus

/-- Whether status text says on. -/
def isOn (raw : String) : Bool := equalsIgnoringAsciiCase (trim raw) "ON"

/-- Text that is not a finite number. -/
structure InvalidNumber where
  raw : String
  deriving Repr, BEq

/-- The message of an invalid number, quoting the text. -/
def InvalidNumber.message (e : InvalidNumber) : String := "Not a number: " ++ quote e.raw

/-- The finite number that trimmed text reads as. -/
def parseNumber (raw : String) : Except InvalidNumber Float :=
  match Decimal.readFloat? (trim raw) with
  | some v => if Binary64.isFinite v then .ok v else .error ⟨raw⟩
  | none => .error ⟨raw⟩

/-- The status of a heater from its body's heat mode, temperature and set points. -/
def thermalStatus (htMode : Int) (temp low high : Float) : ThermalStatus :=
  if htMode = 0 then (if low ≤ temp ∧ temp ≤ high then .idle else .off)
  else if htMode = 1 ∨ htMode = 4 then .heating
  else if htMode = 9 then .cooling
  else .off

/-- The status of a heater no body names: from the body it matches by name, else its status. -/
def unreferencedHeaterStatus (heaterName : String) (rawStatus : Option String)
    (bodyHeating : Dict Bool) : ThermalStatus :=
  let heater := toLower heaterName
  let matched := bodyHeating.toList.find? fun (body, _) =>
    let body := toLower body
    !body.isEmpty && (containsText heater body || containsText body heater)
  match matched with
  | some (_, true) => .heating
  | some (_, false) => .off
  | none => if (rawStatus.map isOn).getD false then .heating else .off

/-- The status of a circuit from its status text and freeze protection. -/
def circuitStatus (raw : String) (freezeActive circuitFreeze : Bool) : CircuitStatus :=
  if isOn raw then (if freezeActive && circuitFreeze then .freezeProtected else .on) else .off

/-- Whether a circuit's name mentions heat. -/
def isHeatCircuit (displayName : String) : Bool := containsText (toLower displayName) "heat"

/-- Whether the first body named in a heat circuit's name is heating. -/
def heatCircuitDemand (circuitName : String) (bodyHeating : Dict Bool) : Option Bool :=
  let circuit := toLower circuitName
  (bodyHeating.toList.find? fun (body, _) =>
    !body.isEmpty && containsText circuit (toLower body)).map (·.2)

/-- Whether a feature flag shows the feature. -/
def featureVisible (flag : String) : Bool := (trim flag).toList.getLast? == some 'w'

/-- The heater a body's heater source names, if any. -/
def heaterAssignment (htsrc : String) : Option String :=
  let t := trim htsrc
  if t.isEmpty ∨ t.toList.all (· = '0') then none else some t

end PoolMonitor.Equipment
