import Mathlib
import PoolMonitor.Proofs.ReadingKeys
/-!
# The derived maps list exactly what the readings report

Besides its readings, a derivation fills one map per category of reading: temperatures, pump
speeds, power and flow, circuits, features, heater states and unknown objects, each keyed by
equipment id. This module proves that the two views never drift apart: after a derivation,
each map has an entry for an id exactly when a reading of its category carries that id, and no
two readings share a key (`derived_keys_match_maps`).

* **`Derived.records`** reads the map of a category; **`Derived.Agrees`** is the agreement, and
  every step of a derivation keeps it: a step writes an id into the map of one category exactly
  when it adds a reading of that category and id (`Agrees.record`), and changes nothing either
  view shows otherwise (`Agrees.frame`).
* One lemma per step of `derive` (`Agrees.body` to `Agrees.other`), folded over the objects by
  `List.foldlRecOn`, gives `agrees_derive`.
-/

namespace PoolMonitor

theorem Dict.contains_insert {β : Type} (d : Dict β) (k k' : String) (v : β) :
    (d.insert k v).contains k' = (k' == k || d.contains k') := by
  rw [Bool.eq_iff_iff, Dict.contains_iff_get?_isSome, Dict.get?_insert, Bool.or_eq_true,
    Dict.contains_iff_get?_isSome, beq_iff_eq]
  by_cases hk : k' = k <;> simp [hk]

namespace Equipment

open PoolMonitor.Wire

/-! ## The maps of a derivation against its readings -/

/-- Whether the map of category `c` has an entry for `id`. -/
def Derived.records (d : Derived) : Category → String → Bool
  | .temperature, id => d.temperatures.contains id
  | .pumpSpeed, id => d.pumpSpeeds.contains id
  | .pumpPower, id => d.pumpPower.contains id
  | .pumpFlow, id => d.pumpFlow.contains id
  | .circuit, id => d.circuits.contains id
  | .thermal, id => d.thermal.contains id
  | .feature, id => d.features.contains id
  | .unknown, id => d.unknown.contains id

/-- Each map has an entry for an id exactly when a reading of its category carries the id. -/
def Derived.Agrees (d : Derived) : Prop :=
  ∀ c id, d.records c id = true ↔ ∃ r ∈ d.readingsRev, r.category = c ∧ r.entityId = id

namespace Derived

@[simp] theorem records_emit (d : Derived) (r : Reading) : (d.emit r).records = d.records := rfl

/-- Writing `id` into the map of `c`: that map gains `id`, every other map stays, and so do the
readings. -/
structure Writes (d d' : Derived) (c : Category) (id : String) : Prop where
  records : ∀ c' id', d'.records c' id' = true ↔ d.records c' id' = true ∨ (c' = c ∧ id' = id)
  readings : d'.readingsRev = d.readingsRev

theorem writes_temperatures (d : Derived) (id : String) (v : Float) :
    Writes d { d with temperatures := d.temperatures.insert id v } .temperature id :=
  ⟨fun c id' => by cases c <;> simp [records, Dict.contains_insert, or_comm], rfl⟩

theorem writes_pumpSpeeds (d : Derived) (id : String) (v : Float) :
    Writes d { d with pumpSpeeds := d.pumpSpeeds.insert id v } .pumpSpeed id :=
  ⟨fun c id' => by cases c <;> simp [records, Dict.contains_insert, or_comm], rfl⟩

theorem writes_pumpPower (d : Derived) (id : String) (v : Float) :
    Writes d { d with pumpPower := d.pumpPower.insert id v } .pumpPower id :=
  ⟨fun c id' => by cases c <;> simp [records, Dict.contains_insert, or_comm], rfl⟩

theorem writes_pumpFlow (d : Derived) (id : String) (v : Float) :
    Writes d { d with pumpFlow := d.pumpFlow.insert id v } .pumpFlow id :=
  ⟨fun c id' => by cases c <;> simp [records, Dict.contains_insert, or_comm], rfl⟩

theorem writes_circuits (d : Derived) (id : String) (v : CircuitStatus) :
    Writes d { d with circuits := d.circuits.insert id v } .circuit id :=
  ⟨fun c id' => by cases c <;> simp [records, Dict.contains_insert, or_comm], rfl⟩

theorem writes_thermal (d : Derived) (id : String) (v : ThermalStatus) :
    Writes d { d with thermal := d.thermal.insert id v } .thermal id :=
  ⟨fun c id' => by cases c <;> simp [records, Dict.contains_insert, or_comm], rfl⟩

theorem writes_features (d : Derived) (id : String) (v : CircuitStatus) :
    Writes d { d with features := d.features.insert id v } .feature id :=
  ⟨fun c id' => by cases c <;> simp [records, Dict.contains_insert, or_comm], rfl⟩

theorem writes_unknown (d : Derived) (id : String) (v : Dict String) :
    Writes d { d with unknown := d.unknown.insert id v } .unknown id :=
  ⟨fun c id' => by cases c <;> simp [records, Dict.contains_insert, or_comm], rfl⟩

/-- **A write that comes with its reading keeps the agreement.** -/
theorem Agrees.record {d d' : Derived} (h : d.Agrees) {r : Reading} (hw : Writes d d' r.category r.entityId) :
    (d'.emit r).Agrees := by
  intro c id
  rw [records_emit, hw.records, h c id, readingsRev_emit, hw.readings]
  simp only [List.mem_cons, or_and_right, exists_or, exists_eq_left]
  constructor
  · rintro (h' | ⟨rfl, rfl⟩)
    · exact Or.inr h'
    · exact Or.inl ⟨rfl, rfl⟩
  · rintro (⟨rfl, rfl⟩ | h')
    · exact Or.inr ⟨rfl, rfl⟩
    · exact Or.inl h'

/-- A step that changes neither the maps nor the readings keeps the agreement. -/
theorem Agrees.frame {d d' : Derived} (h : d.Agrees) (hm : d'.records = d.records)
    (hr : d'.readingsRev = d.readingsRev) : d'.Agrees := by
  intro c id
  rw [hm, hr]
  exact h c id

/-! ## The steps of a derivation -/

theorem Agrees.body {d : Derived} (h : d.Agrees) (refs : Referenced) (b : ObjectData) :
    (d.body refs b).1.Agrees := by
  unfold Derived.body
  -- the body's temperature is its one reading; naming a heater only records the body's heating
  cases number b Key.temp with
  | none =>
    simp only []
    split <;> exact h.frame rfl rfl
  | some t =>
    have h₁ : (({ d with temperatures := d.temperatures.insert b.objnam t } : Derived).emit
        ((Reading.new .temperature b.objnam b.name t).withLabel "kind" "body")).Agrees :=
      h.record (writes_temperatures d b.objnam t)
    simp only []
    split <;> (try split) <;> exact h₁.frame rfl rfl

theorem Agrees.referencedHeater {d : Derived} (h : d.Agrees) (objects : Dict ObjectData)
    (entry : String × ThermalStatus × String) : (d.referencedHeater objects entry).Agrees :=
  h.record (writes_thermal d entry.1 entry.2.1)

theorem Agrees.heater {d : Derived} (h : d.Agrees) (refs : Referenced) (o : ObjectData) :
    (d.heater refs o).Agrees := by
  unfold Derived.heater
  split
  · exact h
  · exact h.record (writes_thermal d o.objnam _)

theorem Agrees.pump {d : Derived} (h : d.Agrees) (p : ObjectData) : (d.pump p).Agrees := by
  unfold Derived.pump
  -- speed, power and flow in turn: each parameter that is a number writes its own map
  cases number p Key.rpm <;> cases number p Key.watts <;> cases number p Key.gpm <;> simp only []
  case none.none.none => exact h
  case none.none.some f => exact h.record (writes_pumpFlow d p.objnam f)
  case none.some.none w => exact h.record (writes_pumpPower d p.objnam w)
  case none.some.some w f =>
    exact (h.record (writes_pumpPower d p.objnam w)).record (writes_pumpFlow _ p.objnam f)
  case some.none.none s => exact h.record (writes_pumpSpeeds d p.objnam s)
  case some.none.some s f =>
    exact (h.record (writes_pumpSpeeds d p.objnam s)).record (writes_pumpFlow _ p.objnam f)
  case some.some.none s w =>
    exact (h.record (writes_pumpSpeeds d p.objnam s)).record (writes_pumpPower _ p.objnam w)
  case some.some.some s w f =>
    exact ((h.record (writes_pumpSpeeds d p.objnam s)).record
      (writes_pumpPower _ p.objnam w)).record (writes_pumpFlow _ p.objnam f)

theorem Agrees.circuit {d : Derived} (h : d.Agrees) (flags : Dict String) (c : ObjectData) :
    (d.circuit flags c).Agrees := by
  unfold Derived.circuit
  simp only []
  split_ifs
  · exact h
  · exact h.record (writes_features d c.objnam _)
  -- a plain circuit, following a body's heating or its own status
  all_goals exact h.record (writes_circuits d c.objnam _)

theorem Agrees.sensor {d : Derived} (h : d.Agrees) (s : ObjectData) : (d.sensor s).Agrees := by
  unfold Derived.sensor
  simp only []
  split
  · exact h
  · split
    · exact h.record (writes_temperatures d s.objnam _)
    · exact h

theorem Agrees.other {d : Derived} (h : d.Agrees) (o : ObjectData) : (d.other o).Agrees := by
  unfold Derived.other
  split
  · exact h
  · split
    · exact h
    · exact h.record (writes_unknown d o.objnam _)

end Derived

/-! ## The whole derivation -/

theorem agrees_start (freeze : Bool) : ({ freezeActive := freeze } : Derived).Agrees := by
  intro c id
  cases c <;> simp [Derived.records, Dict.contains, Dict.empty]

/-- **Every derivation keeps its maps and its readings in agreement.** Each step is folded over
its objects, starting from empty maps and no readings. -/
theorem agrees_derive (objects : Dict ObjectData) (flags : Dict String) :
    (derive objects flags).Agrees := by
  unfold derive
  simp only []
  have hb := List.foldlRecOn (motive := fun acc : Derived × Referenced => acc.1.Agrees)
    (ofType (objects.toList.map (·.2)) ObjType.body) (fun acc b => acc.1.body acc.2 b)
    (b := ({ freezeActive := freezeActiveIn (objects.toList.map (·.2)) }, Dict.empty))
    (agrees_start _) fun acc h b _ => h.body acc.2 b
  generalize (ofType (objects.toList.map (·.2)) ObjType.body).foldl _ _ = B at hb ⊢
  obtain ⟨D₁, refs⟩ := B
  -- the later steps, from the last one inwards
  refine List.foldlRecOn (motive := Derived.Agrees) _ _ ?_ fun d h o _ => h.other o
  refine List.foldlRecOn (motive := Derived.Agrees) _ _ ?_ fun d h s _ => h.sensor s
  refine List.foldlRecOn (motive := Derived.Agrees) _ _ ?_ fun d h c _ => h.circuit flags c
  refine List.foldlRecOn (motive := Derived.Agrees) _ _ ?_ fun d h p _ => h.pump p
  refine List.foldlRecOn (motive := Derived.Agrees) _ _ ?_ fun d h o _ => h.heater refs o
  exact List.foldlRecOn (motive := Derived.Agrees) _ _ hb
    fun d h e _ => h.referencedHeater objects e

/-- Each map lists exactly the ids of the readings of its category. -/
def Derived.MapsListReadings (d : Derived) : Prop :=
  (∀ id, d.temperatures.contains id = true ↔
    ∃ r ∈ d.readings, r.category = .temperature ∧ r.entityId = id) ∧
  (∀ id, d.pumpSpeeds.contains id = true ↔
    ∃ r ∈ d.readings, r.category = .pumpSpeed ∧ r.entityId = id) ∧
  (∀ id, d.pumpPower.contains id = true ↔
    ∃ r ∈ d.readings, r.category = .pumpPower ∧ r.entityId = id) ∧
  (∀ id, d.pumpFlow.contains id = true ↔ ∃ r ∈ d.readings, r.category = .pumpFlow ∧ r.entityId = id) ∧
  (∀ id, d.circuits.contains id = true ↔ ∃ r ∈ d.readings, r.category = .circuit ∧ r.entityId = id) ∧
  (∀ id, d.features.contains id = true ↔ ∃ r ∈ d.readings, r.category = .feature ∧ r.entityId = id) ∧
  (∀ id, d.thermal.contains id = true ↔ ∃ r ∈ d.readings, r.category = .thermal ∧ r.entityId = id) ∧
  (∀ id, d.unknown.contains id = true ↔ ∃ r ∈ d.readings, r.category = .unknown ∧ r.entityId = id)

theorem Derived.Agrees.mapsListReadings {d : Derived} (h : d.Agrees) : d.MapsListReadings := by
  -- the readings are the reversed list the maps agree with
  have hm : ∀ c id, d.records c id = true ↔ ∃ r ∈ d.readings, r.category = c ∧ r.entityId = id := by
    intro c id
    rw [h c id, Derived.readings]
    simp only [List.mem_reverse]
  exact ⟨hm .temperature, hm .pumpSpeed, hm .pumpPower, hm .pumpFlow, hm .circuit, hm .feature,
    hm .thermal, hm .unknown⟩

/-- Readings with pairwise different keys have at most one of each category and id. -/
theorem KeysDistinct.length_filter_le_one {rs : List Reading} (h : KeysDistinct rs) (c : Category)
    (id : String) : (rs.filter fun r => decide (r.category = c ∧ r.entityId = id)).length ≤ 1 := by
  have hp := h.filter (fun r => decide (r.category = c ∧ r.entityId = id))
  have hall := fun r (hr : r ∈ rs.filter fun r => decide (r.category = c ∧ r.entityId = id)) =>
    of_decide_eq_true (List.mem_filter.mp hr).2
  generalize rs.filter (fun r => decide (r.category = c ∧ r.entityId = id)) = l at hp hall
  match l, hp, hall with
  | [], _, _ => exact Nat.zero_le _
  | [_], _, _ => exact Nat.le_refl _
  | a :: b :: _, hp, hall =>
    -- two such readings would share the key `c:id`
    have ha := hall a List.mem_cons_self
    have hb := hall b (List.mem_cons_of_mem _ List.mem_cons_self)
    exact absurd (Reading.key_eq_key.mpr ⟨ha.1.trans hb.1.symm, ha.2.trans hb.2.symm⟩)
      (List.rel_of_pairwise_cons hp List.mem_cons_self)

/-- **The readings of a derivation have keys of their own, and the derived maps list exactly
their ids.** For a reachable cache and any feature flags, no two readings share a key, and each
map has an entry for an id exactly when a reading of its category carries that id. In
particular a heater has one heater-state reading at most, whether bodies name it, it is a
heater object, or both. -/
theorem derived_keys_match_maps {objects : Dict ObjectData} (h : CacheWF objects)
    (flags : Dict String) :
    let d := derive objects flags
    KeysDistinct d.readings ∧ d.MapsListReadings ∧
      ∀ id, (d.readings.filter fun r => decide (r.category = .thermal ∧ r.entityId = id)).length ≤ 1 :=
  ⟨keysDistinct_derive h flags, (agrees_derive objects flags).mapsListReadings,
    (keysDistinct_derive h flags).length_filter_le_one .thermal⟩

/-- A heater that is also the heater a body names with complete heater information. -/
theorem derived_keys_match_maps_shared_heater :
    let objects := ([⟨"H1", ⟨[("OBJTYP", "HEATER")]⟩⟩,
      ⟨"B1", ⟨[("HITMP", "90"), ("HTMODE", "1"), ("HTSRC", "H1"), ("LOTMP", "80"),
        ("OBJTYP", "BODY"), ("TEMP", "82")]⟩⟩] : List ObjectData).foldl EquipmentState.learn
        Dict.empty
    let d := derive objects Dict.empty
    CacheWF objects ∧ KeysDistinct d.readings ∧ d.MapsListReadings ∧
      ∀ id, (d.readings.filter fun r => decide (r.category = .thermal ∧ r.entityId = id)).length ≤ 1 :=
  ⟨cacheWF_empty.foldl_learn (by decide),
    derived_keys_match_maps (cacheWF_empty.foldl_learn (by decide)) Dict.empty⟩

end Equipment

end PoolMonitor
