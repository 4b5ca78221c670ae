import PoolMonitor.Equipment.State
/-!
# The minder

The minder applies updates to the equipment state in the order they arrive. Until the first
full snapshot after a start or a reset, updates other than feature flags, resets and snapshots
are dropped. A snapshot after a reset first reports that the state was rebuilt. A poll that
succeeded but changed nothing is reported as such.
-/

namespace PoolMonitor.Equipment

open PoolMonitor.Wire

/-- Something the minder is told. -/
inductive Update where
  | featureFlags (flags : Dict String)
  | reset
  | initial (source : Source) (objects : List ObjectData)
  | pollCycle (objects : List ObjectData) (failed : Bool)
  | push (objects : List ObjectData)

/-- The equipment state and where the minder stands with snapshots. -/
structure Minder where
  state : EquipmentState := {}
  awaitingInitial : Bool := true
  resynchronizing : Bool := false
  deriving Inhabited

/-- Handle one update: the new minder, and the readings and events it produced. -/
def Minder.handle (m : Minder) : Update → Minder × Applied
  | .featureFlags flags => ({ m with state := m.state.setFeatureFlags flags }, ⟨[], []⟩)
  | .reset => ({ m with state := m.state.reset, awaitingInitial := true, resynchronizing := true }, ⟨[], []⟩)
  | .initial source objects =>
    let first : List Event := if m.resynchronizing then [⟨source, .resynchronized⟩] else []
    let (state, applied) := m.state.apply objects source
    ({ state := state.markInitialDone, awaitingInitial := false, resynchronizing := false },
      ⟨applied.readings, first ++ applied.events⟩)
  | .push objects =>
    if m.awaitingInitial then (m, ⟨[], []⟩)
    else
      let (state, applied) := m.state.apply objects .push
      ({ m with state }, applied)
  | .pollCycle objects failed =>
    if m.awaitingInitial then (m, ⟨[], []⟩)
    else
      let (state, applied) := m.state.apply objects .poll
      let extra : List Event := if !failed && state.changes == 0 then [⟨.poll, .noChanges⟩] else []
      ({ m with state }, ⟨applied.readings, applied.events ++ extra⟩)

end PoolMonitor.Equipment
