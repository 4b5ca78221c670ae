import Mathlib
import PoolMonitor.Proofs.ReadingMaps
/-!
# The passes of a derivation

`derive` runs seven steps, each folded over the known objects of one type. Later steps read
what earlier ones left: the heater states read the bodies' heating, the circuits read it too,
and both read whether the controller protects against freezing. This module cuts a derivation
into its passes and says, for each field, which pass writes it and which leave it alone:

* `bodyPass` (step 1), `heaterPass` (steps 2 and 3) and `circuitPass` (steps 4 and 5) name the
  states in between, and `derive_eq` puts them together;
* one `@[simp]` lemma per step and field that the step leaves alone (`thermal_pump`,
  `circuits_body`, …), folded by `foldl_keeps`, give each field of the result from the pass
  that writes it (`thermal_derive`, `bodyHeating_derive`, `circuits_derive`, …);
* `get?_foldl_own` reads a map written by a pass whose steps each write under their own
  object's name: the entry of a name is the one its object writes;
* readings once emitted stay (`mem_readingsRev_derive`).
-/

namespace PoolMonitor.Equipment

open PoolMonitor.Wire

/-! ## Folds -/

/-- A fold whose steps leave a view alone leaves it alone. -/
theorem foldl_keeps {σ ε γ : Type} (view : σ → γ) (step : σ → ε → σ)
    (h : ∀ s e, view (step s e) = view s) (es : List ε) (s : σ) :
    view (es.foldl step s) = view s := by
  induction es generalizing s with
  | nil => rfl
  | cons e rest ih => rw [List.foldl_cons, ih, h]

/-- In a list with no name twice, looking a member up by its name finds that member. -/
theorem find?_name_of_mem {ε : Type} {name : ε → String} {es : List ε}
    (hnd : (es.map name).Nodup) {e : ε} (he : e ∈ es) :
    es.find? (fun e' => name e' == name e) = some e := by
  induction es with
  | nil => simp at he
  | cons e' rest ih =>
    obtain ⟨hfresh, hrest⟩ := List.nodup_cons.mp hnd
    rcases List.mem_cons.mp he with rfl | he
    · simp
    · -- a later member: the head has another name
      have hne : name e' ≠ name e := fun h => hfresh (h ▸ List.mem_map_of_mem he)
      have hb : (name e' == name e) = false := by simpa using hne
      simp only [List.find?_cons, hb]
      exact ih hrest he

/-- **A map written under the objects' own names.** Each step may write the map under its
object's name, with a value `out` that reads only what the steps keep; then the entry of a name
is what its object writes, over what was there. Induction on the objects: a step writes no other
name, and no later object has the name of an earlier one. -/
theorem get?_foldl_own {σ ε β : Type} (view : σ → Dict β) (name : ε → String)
    (out : σ → ε → Option β) (step : σ → ε → σ)
    (hstep : ∀ s e, view (step s e) = ((out s e).map fun v => (view s).insert (name e) v).getD (view s))
    (hout : ∀ s e e', out (step s e) e' = out s e') (es : List ε) (hnd : (es.map name).Nodup)
    (s : σ) (k : String) :
    (view (es.foldl step s)).get? k =
      ((es.find? (fun e => name e == k)).bind (out s)).or ((view s).get? k) := by
  induction es generalizing s with
  | nil => rfl
  | cons e rest ih =>
    obtain ⟨hfresh, hrest⟩ := List.nodup_cons.mp hnd
    rw [List.foldl_cons, ih hrest, List.find?_cons]
    -- what the first object wrote, read under `k`
    have hfirst : (view (step s e)).get? k =
        if name e = k then (out s e).or ((view s).get? k) else (view s).get? k := by
      rw [hstep]
      cases out s e with
      | none =>
        simp only [Option.map_none, Option.getD_none, Option.none_or]
        split <;> rfl
      | some v =>
        simp only [Option.map_some, Option.getD_some, Dict.get?_insert]
        by_cases hk : name e = k
        · simp [hk]
        · simp [hk, Ne.symm hk]
    by_cases hk : name e = k
    · -- the first object owns `k`, and no later object has its name
      have hnone : rest.find? (fun e' => name e' == k) = none := by
        rw [List.find?_eq_none]
        intro e' he' heq
        exact hfresh (hk ▸ (beq_iff_eq.mp heq) ▸ List.mem_map_of_mem he')
      rw [hnone, hfirst, if_pos hk]
      simp [hk]
    · rw [hfirst, if_neg hk]
      have hb : (name e == k) = false := by simpa using hk
      simp only [hb, hout]

/-! ## What each step leaves alone -/

namespace Derived

@[simp] theorem thermal_emit (d : Derived) (r : Reading) : (d.emit r).thermal = d.thermal := rfl

@[simp] theorem circuits_emit (d : Derived) (r : Reading) : (d.emit r).circuits = d.circuits := rfl

@[simp] theorem features_emit (d : Derived) (r : Reading) : (d.emit r).features = d.features := rfl

@[simp] theorem bodyHeating_emit (d : Derived) (r : Reading) :
    (d.emit r).bodyHeating = d.bodyHeating := rfl

@[simp] theorem freezeActive_emit (d : Derived) (r : Reading) :
    (d.emit r).freezeActive = d.freezeActive := rfl

/-- A body writes its temperature, its heating and its heater's record, and nothing read by
the later steps besides its heating. -/
theorem body_keeps (d : Derived) (refs : Referenced) (b : ObjectData) :
    (d.body refs b).1.thermal = d.thermal ∧ (d.body refs b).1.circuits = d.circuits ∧
      (d.body refs b).1.features = d.features ∧
      (d.body refs b).1.freezeActive = d.freezeActive := by
  unfold Derived.body
  cases number b Key.temp <;> simp only [] <;> split <;> (try split) <;> simp

@[simp] theorem thermal_body (d : Derived) (refs : Referenced) (b : ObjectData) :
    (d.body refs b).1.thermal = d.thermal := (body_keeps d refs b).1

@[simp] theorem circuits_body (d : Derived) (refs : Referenced) (b : ObjectData) :
    (d.body refs b).1.circuits = d.circuits := (body_keeps d refs b).2.1

@[simp] theorem features_body (d : Derived) (refs : Referenced) (b : ObjectData) :
    (d.body refs b).1.features = d.features := (body_keeps d refs b).2.2.1

@[simp] theorem freezeActive_body (d : Derived) (refs : Referenced) (b : ObjectData) :
    (d.body refs b).1.freezeActive = d.freezeActive := (body_keeps d refs b).2.2.2

@[simp] theorem circuits_referencedHeater (objects : Dict ObjectData) (d : Derived)
    (e : String × ThermalStatus × String) :
    (d.referencedHeater objects e).circuits = d.circuits := rfl

@[simp] theorem features_referencedHeater (objects : Dict ObjectData) (d : Derived)
    (e : String × ThermalStatus × String) :
    (d.referencedHeater objects e).features = d.features := rfl

@[simp] theorem bodyHeating_referencedHeater (objects : Dict ObjectData) (d : Derived)
    (e : String × ThermalStatus × String) :
    (d.referencedHeater objects e).bodyHeating = d.bodyHeating := rfl

@[simp] theorem freezeActive_referencedHeater (objects : Dict ObjectData) (d : Derived)
    (e : String × ThermalStatus × String) :
    (d.referencedHeater objects e).freezeActive = d.freezeActive := rfl

/-- A heater writes its state only. -/
theorem heater_keeps (refs : Referenced) (d : Derived) (h : ObjectData) :
    (d.heater refs h).circuits = d.circuits ∧ (d.heater refs h).features = d.features ∧
      (d.heater refs h).bodyHeating = d.bodyHeating ∧
      (d.heater refs h).freezeActive = d.freezeActive := by
  unfold Derived.heater
  split <;> simp

@[simp] theorem circuits_heater (refs : Referenced) (d : Derived) (h : ObjectData) :
    (d.heater refs h).circuits = d.circuits := (heater_keeps refs d h).1

@[simp] theorem features_heater (refs : Referenced) (d : Derived) (h : ObjectData) :
    (d.heater refs h).features = d.features := (heater_keeps refs d h).2.1

@[simp] theorem bodyHeating_heater (refs : Referenced) (d : Derived) (h : ObjectData) :
    (d.heater refs h).bodyHeating = d.bodyHeating := (heater_keeps refs d h).2.2.1

@[simp] theorem freezeActive_heater (refs : Referenced) (d : Derived) (h : ObjectData) :
    (d.heater refs h).freezeActive = d.freezeActive := (heater_keeps refs d h).2.2.2

/-- A pump writes its speed, power and flow only. -/
theorem pump_keeps (d : Derived) (p : ObjectData) :
    (d.pump p).thermal = d.thermal ∧ (d.pump p).circuits = d.circuits ∧
      (d.pump p).features = d.features ∧ (d.pump p).bodyHeating = d.bodyHeating ∧
      (d.pump p).freezeActive = d.freezeActive := by
  unfold Derived.pump
  cases number p Key.rpm <;> cases number p Key.watts <;> cases number p Key.gpm <;>
    exact ⟨rfl, rfl, rfl, rfl, rfl⟩

@[simp] theorem thermal_pump (d : Derived) (p : ObjectData) : (d.pump p).thermal = d.thermal :=
  (pump_keeps d p).1

@[simp] theorem circuits_pump (d : Derived) (p : ObjectData) : (d.pump p).circuits = d.circuits :=
  (pump_keeps d p).2.1

@[simp] theorem features_pump (d : Derived) (p : ObjectData) : (d.pump p).features = d.features :=
  (pump_keeps d p).2.2.1

@[simp] theorem bodyHeating_pump (d : Derived) (p : ObjectData) :
    (d.pump p).bodyHeating = d.bodyHeating := (pump_keeps d p).2.2.2.1

@[simp] theorem freezeActive_pump (d : Derived) (p : ObjectData) :
    (d.pump p).freezeActive = d.freezeActive := (pump_keeps d p).2.2.2.2

/-- A circuit writes its own entry among the circuits or the features, and reads the heating
and the freeze protection without writing them. -/
theorem circuit_keeps (flags : Dict String) (d : Derived) (c : ObjectData) :
    (d.circuit flags c).thermal = d.thermal ∧ (d.circuit flags c).bodyHeating = d.bodyHeating ∧
      (d.circuit flags c).freezeActive = d.freezeActive := by
  unfold Derived.circuit
  simp only []
  split_ifs <;> simp

@[simp] theorem thermal_circuit (flags : Dict String) (d : Derived) (c : ObjectData) :
    (d.circuit flags c).thermal = d.thermal := (circuit_keeps flags d c).1

@[simp] theorem bodyHeating_circuit (flags : Dict String) (d : Derived) (c : ObjectData) :
    (d.circuit flags c).bodyHeating = d.bodyHeating := (circuit_keeps flags d c).2.1

@[simp] theorem freezeActive_circuit (flags : Dict String) (d : Derived) (c : ObjectData) :
    (d.circuit flags c).freezeActive = d.freezeActive := (circuit_keeps flags d c).2.2

/-- A sensor writes its temperature only. -/
theorem sensor_keeps (d : Derived) (s : ObjectData) :
    (d.sensor s).thermal = d.thermal ∧ (d.sensor s).circuits = d.circuits ∧
      (d.sensor s).features = d.features ∧ (d.sensor s).bodyHeating = d.bodyHeating := by
  unfold Derived.sensor
  simp only []
  split
  · exact ⟨rfl, rfl, rfl, rfl⟩
  · split <;> exact ⟨rfl, rfl, rfl, rfl⟩

@[simp] theorem thermal_sensor (d : Derived) (s : ObjectData) : (d.sensor s).thermal = d.thermal :=
  (sensor_keeps d s).1

@[simp] theorem circuits_sensor (d : Derived) (s : ObjectData) :
    (d.sensor s).circuits = d.circuits := (sensor_keeps d s).2.1

@[simp] theorem features_sensor (d : Derived) (s : ObjectData) :
    (d.sensor s).features = d.features := (sensor_keeps d s).2.2.1

@[simp] theorem bodyHeating_sensor (d : Derived) (s : ObjectData) :
    (d.sensor s).bodyHeating = d.bodyHeating := (sensor_keeps d s).2.2.2

/-- An object of another type writes its unknown entry only. -/
theorem other_keeps (d : Derived) (o : ObjectData) :
    (d.other o).thermal = d.thermal ∧ (d.other o).circuits = d.circuits ∧
      (d.other o).features = d.features ∧ (d.other o).bodyHeating = d.bodyHeating := by
  unfold Derived.other
  split
  · exact ⟨rfl, rfl, rfl, rfl⟩
  · split <;> exact ⟨rfl, rfl, rfl, rfl⟩

@[simp] theorem thermal_other (d : Derived) (o : ObjectData) : (d.other o).thermal = d.thermal :=
  (other_keeps d o).1

@[simp] theorem circuits_other (d : Derived) (o : ObjectData) : (d.other o).circuits = d.circuits :=
  (other_keeps d o).2.1

@[simp] theorem features_other (d : Derived) (o : ObjectData) : (d.other o).features = d.features :=
  (other_keeps d o).2.2.1

@[simp] theorem bodyHeating_other (d : Derived) (o : ObjectData) :
    (d.other o).bodyHeating = d.bodyHeating := (other_keeps d o).2.2.2

end Derived

/-! ## A derivation, pass by pass -/

/-- Step 1: the bodies, from a start that knows whether the controller protects against
freezing, with the heaters they name. -/
def bodyPass (all : List ObjectData) : Derived × Referenced :=
  (ofType all ObjType.body).foldl (fun acc b => acc.1.body acc.2 b)
    ({ freezeActive := freezeActiveIn all }, Dict.empty)

/-- Steps 2 and 3: the heaters the bodies name, then the others. -/
def heaterPass (objects : Dict ObjectData) (all : List ObjectData) : Derived :=
  (ofType all ObjType.heater).foldl (Derived.heater (bodyPass all).2)
    ((bodyPass all).2.toList.foldl (Derived.referencedHeater objects) (bodyPass all).1)

/-- Steps 4 and 5: the pumps, then the circuits. -/
def circuitPass (flags : Dict String) (all : List ObjectData) (d : Derived) : Derived :=
  (ofType all ObjType.circuit).foldl (Derived.circuit flags) ((ofType all ObjType.pump).foldl Derived.pump d)

/-- The passes make up a derivation. -/
theorem derive_eq (objects : Dict ObjectData) (flags : Dict String) :
    derive objects flags =
      (objects.toList.map (·.2)).foldl Derived.other
        ((ofType (objects.toList.map (·.2)) ObjType.sensor).foldl Derived.sensor
          (circuitPass flags (objects.toList.map (·.2))
            (heaterPass objects (objects.toList.map (·.2))))) := rfl

section Fields

variable (objects : Dict ObjectData) (flags : Dict String)

/-- The heater states are those of steps 2 and 3. -/
theorem thermal_derive :
    (derive objects flags).thermal = (heaterPass objects (objects.toList.map (·.2))).thermal := by
  rw [derive_eq, foldl_keeps _ _ Derived.thermal_other, foldl_keeps _ _ Derived.thermal_sensor,
    circuitPass, foldl_keeps _ _ (Derived.thermal_circuit flags),
    foldl_keeps _ _ Derived.thermal_pump]

/-- The bodies' heating is that of step 1. -/
theorem bodyHeating_derive :
    (derive objects flags).bodyHeating = (bodyPass (objects.toList.map (·.2))).1.bodyHeating := by
  rw [derive_eq, foldl_keeps _ _ Derived.bodyHeating_other,
    foldl_keeps _ _ Derived.bodyHeating_sensor, circuitPass,
    foldl_keeps _ _ (Derived.bodyHeating_circuit flags), foldl_keeps _ _ Derived.bodyHeating_pump,
    heaterPass, foldl_keeps _ _ (Derived.bodyHeating_heater _),
    foldl_keeps _ _ (Derived.bodyHeating_referencedHeater objects)]

/-- The circuits and the features are those of step 5. -/
theorem circuits_derive :
    (derive objects flags).circuits =
      (circuitPass flags (objects.toList.map (·.2))
        (heaterPass objects (objects.toList.map (·.2)))).circuits ∧
    (derive objects flags).features =
      (circuitPass flags (objects.toList.map (·.2))
        (heaterPass objects (objects.toList.map (·.2)))).features := by
  rw [derive_eq, foldl_keeps _ _ Derived.circuits_other, foldl_keeps _ _ Derived.circuits_sensor,
    foldl_keeps _ _ Derived.features_other, foldl_keeps _ _ Derived.features_sensor]
  exact ⟨rfl, rfl⟩

end Fields

/-- Before the circuits, no circuit or feature is written, and the freeze protection is the one
the derivation started from. -/
theorem heaterPass_keeps (objects : Dict ObjectData) (all : List ObjectData) :
    let d := (ofType all ObjType.pump).foldl Derived.pump (heaterPass objects all)
    d.circuits = Dict.empty ∧ d.features = Dict.empty ∧ d.freezeActive = freezeActiveIn all ∧
      d.bodyHeating = (bodyPass all).1.bodyHeating := by
  have hb := fun (view : Derived → Dict CircuitStatus) (hv : ∀ d r b, view (Derived.body d r b).1 = view d) =>
    foldl_keeps (fun acc : Derived × Referenced => view acc.1) (fun acc b => acc.1.body acc.2 b)
      (fun acc b => hv acc.1 acc.2 b) (ofType all ObjType.body)
      ({ freezeActive := freezeActiveIn all }, Dict.empty)
  refine ⟨?_, ?_, ?_, ?_⟩
  · simp only [foldl_keeps _ _ Derived.circuits_pump, heaterPass,
      foldl_keeps _ _ (Derived.circuits_heater _),
      foldl_keeps _ _ (Derived.circuits_referencedHeater objects)]
    exact hb Derived.circuits Derived.circuits_body
  · simp only [foldl_keeps _ _ Derived.features_pump, heaterPass,
      foldl_keeps _ _ (Derived.features_heater _),
      foldl_keeps _ _ (Derived.features_referencedHeater objects)]
    exact hb Derived.features Derived.features_body
  · simp only [foldl_keeps _ _ Derived.freezeActive_pump, heaterPass,
      foldl_keeps _ _ (Derived.freezeActive_heater _),
      foldl_keeps _ _ (Derived.freezeActive_referencedHeater objects), bodyPass]
    exact foldl_keeps (fun acc : Derived × Referenced => acc.1.freezeActive)
      (fun acc b => acc.1.body acc.2 b) (fun acc b => Derived.freezeActive_body acc.1 acc.2 b) _ _
  · simp only [foldl_keeps _ _ Derived.bodyHeating_pump, heaterPass,
      foldl_keeps _ _ (Derived.bodyHeating_heater _),
      foldl_keeps _ _ (Derived.bodyHeating_referencedHeater objects)]

/-! ## Readings stay -/

theorem Adds.mem {P : Reading → Prop} {id : String} {before after : List Reading}
    (h : Adds P id before after) {r : Reading} (hr : r ∈ before) : r ∈ after := by
  obtain ⟨l, rfl, -⟩ := h
  exact List.mem_append_right l hr

/-- A fold of steps that each keep the readings there keeps them. -/
theorem mem_readingsRev_foldl {ε : Type} (step : Derived → ε → Derived)
    (h : ∀ d e r, r ∈ d.readingsRev → r ∈ (step d e).readingsRev) (es : List ε) (d : Derived)
    {r : Reading} (hr : r ∈ d.readingsRev) : r ∈ (es.foldl step d).readingsRev := by
  induction es generalizing d with
  | nil => exact hr
  | cons e rest ih => exact ih _ (h d e r hr)

/-- **A reading emitted by the heater steps is among the readings of the derivation.** -/
theorem mem_readingsRev_derive (objects : Dict ObjectData) (flags : Dict String) {r : Reading}
    (hr : r ∈ (heaterPass objects (objects.toList.map (·.2))).readingsRev) :
    r ∈ (derive objects flags).readings := by
  rw [Derived.readings, List.mem_reverse, derive_eq]
  apply mem_readingsRev_foldl _ (fun d o _ h => (adds_other d o).mem h)
  apply mem_readingsRev_foldl _ (fun d s _ h => (adds_sensor d s).mem h)
  apply mem_readingsRev_foldl _ (fun d c _ h => (adds_circuit flags d c).mem h)
  exact mem_readingsRev_foldl _ (fun d p _ h => (adds_pump d p).mem h) _ _ hr

end PoolMonitor.Equipment
