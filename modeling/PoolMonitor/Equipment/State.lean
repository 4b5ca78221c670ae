import PoolMonitor.Equipment.Classify
import PoolMonitor.Equipment.Tracker
import PoolMonitor.Equipment.Reading
import PoolMonitor.Wire.Object
/-!
# The equipment state

`EquipmentState` holds the last known view of every object and what is derived from it. An
update lays each object's parameters over the known object (or adds it), derives every reading
anew from all known objects, and compares each reading's text with the last one reported
under its key: a new key is an event (before the first full snapshot), a different text is a
change, and changes are counted.

Readings are derived in a fixed order, objects within each step by object name:

1. bodies: the water temperature; and, for a body with an assigned heater, temperature, heat
   mode and both set points, the heater's status for that body. A heater shared by bodies takes
   the status that does the most, and the first body with it;
2. heaters named by bodies, by heater id, labelled with their body;
3. the other heaters, from body names and their own status;
4. pumps: speed, power, flow;
5. circuits: features (names starting `FTR`, or with a feature flag) when their flag shows
   them; other circuits, heat circuits following their body's heating;
6. air and solar sensors: their probe temperature, or their temperature;
7. objects of any other type that is not ignored: on or off by their status.

The controller is protecting against freezing when the controller object (by name or type) has
its freeze parameter on.
-/

namespace PoolMonitor.Equipment

open PoolMonitor.Wire

/-- A body with a heater and what decides the heater's status. -/
structure BodyHeater where
  bodyName : String
  bodyId : String
  heaterId : String
  htMode : Int
  currentTemp : Float
  lowSetpoint : Float
  highSetpoint : Float
  deriving Repr

/-- Everything derived from the known objects. -/
structure Derived where
  temperatures : Dict Float := Dict.empty
  pumpSpeeds : Dict Float := Dict.empty
  pumpPower : Dict Float := Dict.empty
  pumpFlow : Dict Float := Dict.empty
  circuits : Dict CircuitStatus := Dict.empty
  thermal : Dict ThermalStatus := Dict.empty
  features : Dict CircuitStatus := Dict.empty
  unknown : Dict (Dict String) := Dict.empty
  bodyHeaters : List BodyHeater := []
  bodyHeating : Dict Bool := Dict.empty
  freezeActive : Bool := false
  /-- The readings, last first. -/
  readingsRev : List Reading := []
  deriving Inhabited

/-- The readings in the order derived. -/
def Derived.readings (d : Derived) : List Reading := d.readingsRev.reverse

/-- Add a reading. -/
def Derived.emit (d : Derived) (r : Reading) : Derived := { d with readingsRev := r :: d.readingsRev }

/-- Object types that are neither equipment read here nor reported as unknown. -/
def ignoredTypes : List String :=
  ["CIRCGRP", "CLOCK", "EXTINSTR", "MODULE", "PANEL", "PERMIT", "PRESS", "REMOTE", "SCHED",
    "STATUS", "VALVE"]

/-- Object types with readings of their own. -/
def knownTypes : List String :=
  [ObjType.body, ObjType.heater, ObjType.pump, ObjType.circuit, ObjType.sensor, ObjType.system]

/-- A parameter's finite number, if it has one. -/
def number (o : ObjectData) (param : String) : Option Float :=
  (o.get? param).bind fun raw => (parseNumber raw).toOption

/-- The objects of one type, by name. -/
def ofType (objects : List ObjectData) (typ : String) : List ObjectData :=
  objects.filter (·.objectType == some typ)

/-- Heaters named by bodies: their status and the body it is for. -/
abbrev Referenced := Dict (ThermalStatus × String)

/-- Step 1 for one body. -/
def Derived.body (d : Derived) (refs : Referenced) (b : ObjectData) : Derived × Referenced :=
  let name := b.name
  let temp := number b Key.temp
  let d := match temp with
    | some t =>
      ({ d with temperatures := d.temperatures.insert b.objnam t } : Derived).emit
        ((Reading.new .temperature b.objnam name t).withLabel "kind" "body")
    | none => d
  match (b.get? Key.htsrc).bind heaterAssignment with
  | none => (d, refs)
  | some heaterId =>
    match temp, number b Key.htmode, number b Key.lotmp, number b Key.hitmp with
    | some t, some mode, some low, some high =>
      let info : BodyHeater := ⟨name, b.objnam, heaterId, Binary64.truncateToInt64 mode, t, low, high⟩
      let status := thermalStatus info.htMode t low high
      let refs := match refs.get? heaterId with
        | some (current, _) => if status.rank > current.rank then refs.insert heaterId (status, name) else refs
        | none => refs.insert heaterId (status, name)
      ({ d with bodyHeating := d.bodyHeating.insert name status.isHeating,
                bodyHeaters := d.bodyHeaters ++ [info] }, refs)
    | _, _, _, _ => (d, refs)

/-- Step 2 for one heater named by a body. -/
def Derived.referencedHeater (objects : Dict ObjectData) (d : Derived)
    (entry : String × ThermalStatus × String) : Derived :=
  let (heaterId, status, body) := entry
  let name := match objects.get? heaterId with
    | some h => h.name
    | none => heaterId
  ({ d with thermal := d.thermal.insert heaterId status } : Derived).emit
    (((Reading.new .thermal heaterId name status.value).shownAs status.name).withLabel "body" body)

/-- Step 3 for one heater. -/
def Derived.heater (refs : Referenced) (d : Derived) (h : ObjectData) : Derived :=
  if refs.contains h.objnam then d
  else
    let status := unreferencedHeaterStatus h.name (h.get? Key.status) d.bodyHeating
    ({ d with thermal := d.thermal.insert h.objnam status } : Derived).emit
      ((Reading.new .thermal h.objnam h.name status.value).shownAs status.name)

/-- Step 4 for one pump. -/
def Derived.pump (d : Derived) (p : ObjectData) : Derived :=
  let d := match number p Key.rpm with
    | some v => ({ d with pumpSpeeds := d.pumpSpeeds.insert p.objnam v } : Derived).emit
        (Reading.new .pumpSpeed p.objnam p.name v)
    | none => d
  let d := match number p Key.watts with
    | some v => ({ d with pumpPower := d.pumpPower.insert p.objnam v } : Derived).emit
        (Reading.new .pumpPower p.objnam p.name v)
    | none => d
  match number p Key.gpm with
  | some v => ({ d with pumpFlow := d.pumpFlow.insert p.objnam v } : Derived).emit
      (Reading.new .pumpFlow p.objnam p.name v)
  | none => d

/-- Whether a circuit is a feature. -/
def isFeature (flags : Dict String) (id : String) : Bool :=
  id.startsWith featurePrefix || flags.contains id

/-- Step 5 for one circuit. -/
def Derived.circuit (flags : Dict String) (d : Derived) (c : ObjectData) : Derived :=
  let raw := (c.get? Key.status).getD ""
  let circuitFreeze := ((c.get? Key.freeze).map isOn).getD false
  let id := c.objnam
  if isFeature flags id then
    let flag := match flags.get? id with
      | some f => some f
      | none => c.get? Key.shomnu
    if !(flag.map featureVisible).getD false then d
    else
      let status := circuitStatus raw d.freezeActive circuitFreeze
      ({ d with features := d.features.insert id status } : Derived).emit
        ((Reading.new .feature id c.name status.value).shownAs status.name)
  else
    let name := c.name
    let demand := if isHeatCircuit name then heatCircuitDemand name d.bodyHeating else none
    let status := match demand with
      | some true => CircuitStatus.on
      | some false => .off
      | none => circuitStatus raw d.freezeActive circuitFreeze
    ({ d with circuits := d.circuits.insert id status } : Derived).emit
      ((Reading.new .circuit id name status.value).shownAs status.name)

/-- Step 6 for one sensor. -/
def Derived.sensor (d : Derived) (s : ObjectData) : Derived :=
  let kind := match s.get? Key.subtyp with
    | some "AIR" => some "air"
    | some "SOLAR" => some "solar"
    | _ => none
  match kind with
  | none => d
  | some kind =>
    let param := if (s.get? Key.probe).isSome then Key.probe else Key.temp
    match number s param with
    | some t => ({ d with temperatures := d.temperatures.insert s.objnam t } : Derived).emit
        ((Reading.new .temperature s.objnam s.name t).withLabel "kind" kind)
    | none => d

/-- Step 7 for one object. -/
def Derived.other (d : Derived) (o : ObjectData) : Derived :=
  match o.objectType with
  | none => d
  | some typ =>
    if knownTypes.contains typ || ignoredTypes.contains typ then d
    else
      let status := o.get? Key.status
      let value := if (status.map isOn).getD false then 1.0 else 0.0
      ({ d with unknown := d.unknown.insert o.objnam o.params } : Derived).emit
        (((Reading.new .unknown o.objnam o.name value).shownAs (status.getD "present")).withLabel "objtyp" typ)

/-- Whether the controller is protecting against freezing. -/
def freezeActiveIn (objects : List ObjectData) : Bool :=
  objects.any fun o =>
    (o.objnam == systemObject || o.objectType == some ObjType.system) &&
      ((o.get? Key.freeze).map isOn).getD false

/-- Derive everything from the known objects. -/
def derive (objects : Dict ObjectData) (flags : Dict String) : Derived :=
  let all := objects.toList.map (·.2)
  let d : Derived := { freezeActive := freezeActiveIn all }
  let (d, refs) := (ofType all ObjType.body).foldl (fun acc b => acc.1.body acc.2 b) (d, Dict.empty)
  let d := refs.toList.foldl (Derived.referencedHeater objects) d
  let d := (ofType all ObjType.heater).foldl (Derived.heater refs) d
  let d := (ofType all ObjType.pump).foldl Derived.pump d
  let d := (ofType all ObjType.circuit).foldl (Derived.circuit flags) d
  let d := (ofType all ObjType.sensor).foldl Derived.sensor d
  all.foldl Derived.other d

/-- The last known objects, what is derived from them, and the reported values. -/
structure EquipmentState where
  objects : Dict ObjectData := Dict.empty
  derived : Derived := {}
  featureFlags : Dict String := Dict.empty
  changes : Nat := 0
  tracker : Tracker := {}
  deriving Inhabited

/-- What one update produced: the readings and the events, in order. -/
structure Applied where
  readings : List Reading
  events : List Event

namespace EquipmentState

/-- Replace the feature flags. -/
def setFeatureFlags (s : EquipmentState) (flags : Dict String) : EquipmentState :=
  { s with featureFlags := flags }

/-- The first full snapshot is complete. -/
def markInitialDone (s : EquipmentState) : EquipmentState :=
  { s with tracker := s.tracker.markInitialDone }

/-- Whether the first full snapshot is complete. -/
def initialDone (s : EquipmentState) : Bool := s.tracker.initialDone

/-- Forget everything but the feature flags. -/
def reset (s : EquipmentState) : EquipmentState := { featureFlags := s.featureFlags }

/-- The known object of a name. -/
def object? (s : EquipmentState) (name : String) : Option ObjectData := s.objects.get? name

/-- Lay an object over the known one of its name, or add it. -/
def learn (objects : Dict ObjectData) (o : ObjectData) : Dict ObjectData :=
  match objects.get? o.objnam with
  | some known => objects.insert o.objnam (known.merge o)
  | none => objects.insert o.objnam o

/-- Compare one reading with the last reported text of its key. -/
def report (source : Source) (acc : Tracker × Nat × List Event) (r : Reading) :
    Tracker × Nat × List Event :=
  let (t, changes, events) := acc
  let key := r.key
  match t.observe key r.displayValue with
  | (.detected, t) => (t, changes, ⟨source, .detected key r.displayValue⟩ :: events)
  | (.changed old, t) => (t, changes + 1, ⟨source, .changed key old r.displayValue⟩ :: events)
  | (_, t) => (t, changes, events)

/-- Apply an update of objects from `source`. -/
def apply (s : EquipmentState) (objs : List ObjectData) (source : Source) :
    EquipmentState × Applied :=
  let objects := objs.foldl learn s.objects
  let derived := derive objects s.featureFlags
  let readings := derived.readings
  let (tracker, changes, events) := readings.foldl (report source) (s.tracker, 0, [])
  ({ s with objects, derived, tracker, changes }, ⟨readings, events.reverse⟩)

end EquipmentState

end PoolMonitor.Equipment
