import Mathlib
import PoolMonitor.Proofs.SharedHeaters
/-!
# Circuits, features and hidden features

Every circuit object ends up in exactly one place. A circuit whose name starts with `FTR`, or
that has a feature flag, is a feature: it is shown, as a feature, when its flag (its feature
flag, else its menu text) ends in `w` once trimmed, and hidden otherwise. Any other circuit is
reported among the circuits, once. A circuit is on for freeze protection only when it is on,
takes part in freeze protection, and the controller object protects against freezing. A heat
circuit that names a complete body follows the heating recorded for the first body display
name, in name order, that its name contains; when several complete bodies share that display
name, the last of them by object name decides.

* `circuits_circuit` and `features_circuit` say what one circuit step writes;
* `circuitPass_get?` reads both maps after the circuits' pass, object by object
  (`get?_foldl_own`);
* `get?_ofList` and `heatCircuitDemand_isSome` read the bodies' heating that heat circuits
  follow;
* `circuits_partitioned` puts it together for a derivation, with the count of readings of each
  circuit.
-/

namespace PoolMonitor

/-! ## Dictionaries built from entry lists -/

namespace Dict

variable {β : Type}

theorem ofList_append_single (l : List (String × β)) (e : String × β) :
    ofList (l ++ [e]) = (ofList l).insert e.1 e.2 := by
  simp [ofList, List.foldl_append]

/-- **The last entry of a key wins.** -/
theorem get?_ofList (l : List (String × β)) (k : String) :
    (ofList l).get? k = ((l.filter (·.1 == k)).getLast?).map (·.2) := by
  induction l using List.reverseRecOn with
  | nil => rfl
  | append_singleton l e ih =>
    rw [ofList_append_single, get?_insert, ih, List.filter_append]
    by_cases hk : k = e.1
    · simp [hk]
    · simp [hk, Ne.symm hk]

theorem contains_eq_isSome_get? (d : Dict β) (k : String) : d.contains k = (d.get? k).isSome :=
  Bool.eq_iff_iff.mpr (contains_iff_get?_isSome d k)

/-- The keys of a dictionary built from entries are the keys of the entries. -/
theorem mem_ofList_keys (l : List (String × β)) (k : String) :
    (∃ e ∈ (ofList l).toList, e.1 = k) ↔ ∃ e ∈ l, e.1 = k := by
  have hget := get?_ofList l k
  constructor
  · rintro ⟨e, he, rfl⟩
    have hsome : ((ofList l).get? e.1).isSome := by
      rw [← contains_iff_get?_isSome]
      exact contains_of_mem_keys (List.mem_map_of_mem he)
    rw [hget, Option.isSome_map, List.getLast?_isSome] at hsome
    obtain ⟨e', he'⟩ := List.exists_mem_of_ne_nil _ hsome
    obtain ⟨he'', hk⟩ := List.mem_filter.mp he'
    exact ⟨e', he'', beq_iff_eq.mp hk⟩
  · rintro ⟨e, he, rfl⟩
    have hsome : ((ofList l).get? e.1).isSome := by
      rw [hget, Option.isSome_map, List.getLast?_isSome]
      exact List.ne_nil_of_mem (List.mem_filter.mpr ⟨he, beq_self_eq_true _⟩)
    rw [← contains_iff_get?_isSome] at hsome
    obtain ⟨e', he', hk⟩ := List.any_eq_true.mp hsome
    exact ⟨e', he', beq_iff_eq.mp hk⟩

end Dict

namespace Equipment

open PoolMonitor.Wire PoolMonitor.Text

/-! ## One circuit -/

/-- The flag that decides whether a feature is shown: its feature flag when it has one, else
its menu text. -/
def featureFlag (flags : Dict String) (c : ObjectData) : Option String :=
  (flags.get? c.objnam).or (c.get? Key.shomnu)

/-- Whether a feature is shown: its flag ends in `w` once trimmed. -/
def featureShown (flags : Dict String) (c : ObjectData) : Bool :=
  ((featureFlag flags c).map featureVisible).getD false

/-- A circuit's status from its own status text and freeze participation. -/
def ownStatus (freeze : Bool) (c : ObjectData) : CircuitStatus :=
  circuitStatus ((c.get? Key.status).getD "") freeze (((c.get? Key.freeze).map isOn).getD false)

/-- The status of a circuit that is no feature: a heat circuit that names a body follows the
body's heating, any other circuit its own status. -/
def plainStatus (freeze : Bool) (bodyHeating : Dict Bool) (c : ObjectData) : CircuitStatus :=
  match (if isHeatCircuit c.name then heatCircuitDemand c.name bodyHeating else none) with
  | some true => .on
  | some false => .off
  | none => ownStatus freeze c

/-- The entry a circuit step writes among the circuits. -/
def plainEntry (flags : Dict String) (d : Derived) (c : ObjectData) : Option CircuitStatus :=
  if isFeature flags c.objnam then none else some (plainStatus d.freezeActive d.bodyHeating c)

/-- The entry a circuit step writes among the features. -/
def featureEntry (flags : Dict String) (d : Derived) (c : ObjectData) : Option CircuitStatus :=
  if isFeature flags c.objnam && featureShown flags c then some (ownStatus d.freezeActive c)
  else none

theorem circuits_circuit (flags : Dict String) (d : Derived) (c : ObjectData) :
    (d.circuit flags c).circuits =
      ((plainEntry flags d c).map fun v => d.circuits.insert c.objnam v).getD d.circuits := by
  unfold Derived.circuit plainEntry
  dsimp only
  by_cases hf : isFeature flags c.objnam = true
  · -- a feature writes the features only
    rw [if_pos hf, if_pos hf]
    split_ifs <;> rfl
  · rw [if_neg hf, if_neg hf]
    rfl

theorem features_circuit (flags : Dict String) (d : Derived) (c : ObjectData) :
    (d.circuit flags c).features =
      ((featureEntry flags d c).map fun v => d.features.insert c.objnam v).getD d.features := by
  unfold Derived.circuit featureEntry featureShown featureFlag ownStatus
  dsimp only
  by_cases hf : isFeature flags c.objnam = true
  · -- the flag read by the step is the feature flag, else the menu text
    rw [if_pos hf, hf, Bool.true_and]
    cases flags.get? c.objnam <;> split_ifs <;> simp_all
  · rw [if_neg hf]
    simp only [Bool.not_eq_true] at hf
    simp only [hf, Bool.false_and, Bool.false_eq_true, if_false]
    rfl

/-- What a circuit step writes reads only the freeze protection and the bodies' heating, which
no circuit step writes. -/
theorem entries_circuit (flags : Dict String) (d : Derived) (c c' : ObjectData) :
    plainEntry flags (d.circuit flags c) c' = plainEntry flags d c' ∧
      featureEntry flags (d.circuit flags c) c' = featureEntry flags d c' := by
  simp [plainEntry, featureEntry]

/-- **The circuits' pass, object by object.** After the pumps and the circuits, a circuit object
has the entries its own step writes, among the circuits and among the features. -/
theorem circuitPass_get? (flags : Dict String) {all : List ObjectData}
    (hnd : (all.map (·.objnam)).Nodup) (d : Derived) {c : ObjectData}
    (hc : c ∈ ofType all ObjType.circuit) :
    let p := circuitPass flags all d
    let d₄ := (ofType all ObjType.pump).foldl Derived.pump d
    p.circuits.get? c.objnam = (plainEntry flags d₄ c).or (d₄.circuits.get? c.objnam) ∧
      p.features.get? c.objnam = (featureEntry flags d₄ c).or (d₄.features.get? c.objnam) := by
  intro p d₄
  have hcs := names_ofType_nodup hnd ObjType.circuit
  have hfind := find?_name_of_mem hcs hc
  constructor
  · rw [show p = (ofType all ObjType.circuit).foldl (Derived.circuit flags) d₄ from rfl,
      get?_foldl_own Derived.circuits (fun o : ObjectData => o.objnam) (plainEntry flags)
        (Derived.circuit flags) (circuits_circuit flags)
        (fun d c c' => (entries_circuit flags d c c').1) _ hcs, hfind]
    rfl
  · rw [show p = (ofType all ObjType.circuit).foldl (Derived.circuit flags) d₄ from rfl,
      get?_foldl_own Derived.features (fun o : ObjectData => o.objnam) (featureEntry flags)
        (Derived.circuit flags) (features_circuit flags)
        (fun d c c' => (entries_circuit flags d c c').2) _ hcs, hfind]
    rfl

/-! ## Freeze protection and heat circuits -/

/-- The controller protects against freezing when the controller object, by name or by type,
has its freeze parameter on. -/
theorem freezeActiveIn_iff (all : List ObjectData) :
    freezeActiveIn all = true ↔ ∃ o ∈ all,
      (o.objnam = systemObject ∨ o.objectType = some ObjType.system) ∧
        ((o.get? Key.freeze).map isOn).getD false = true := by
  simp [freezeActiveIn, List.any_eq_true]

/-- A circuit's own status is freeze protection only when it is on, takes part in freeze
protection, and the controller protects against freezing. -/
theorem ownStatus_freezeProtected {freeze : Bool} {c : ObjectData}
    (h : ownStatus freeze c = .freezeProtected) :
    isOn ((c.get? Key.status).getD "") = true ∧ ((c.get? Key.freeze).map isOn).getD false = true ∧
      freeze = true := by
  unfold ownStatus circuitStatus at h
  split_ifs at h with hon hboth
  · simp only [Bool.and_eq_true] at hboth
    exact ⟨hon, hboth.2, hboth.1⟩

/-- A heat circuit whose name contains the display name of a complete body finds a heating to
follow among the bodies' heating. -/
theorem heatCircuitDemand_isSome {name : String} {bodies : List ObjectData} {b : ObjectData}
    (hb : b ∈ bodies) (hd : (bodyDemand b).isSome) (hn : b.name.isEmpty = false)
    (hc : containsText (toLower name) (toLower b.name) = true) :
    (heatCircuitDemand name (Dict.ofList (heatingByName bodies))).isSome := by
  unfold heatCircuitDemand
  rw [Option.isSome_map, List.find?_isSome]
  -- the body's display name is a key of the heating by name
  obtain ⟨hb', _⟩ := Option.isSome_iff_exists.mp hd
  obtain ⟨e, he, hk⟩ := (Dict.mem_ofList_keys (heatingByName bodies) b.name).mpr
    ⟨(b.name, hb'.2.isHeating), List.mem_filterMap.mpr ⟨b, hb, by simp [*]⟩, rfl⟩
  exact ⟨e, he, by simp [hk, hn, hc]⟩

/-- A heat circuit that finds a heating to follow is on or off by it, never on for freeze
protection. -/
theorem plainStatus_of_demand {freeze : Bool} {bodyHeating : Dict Bool} {c : ObjectData}
    (hh : isHeatCircuit c.name = true) {heating : Bool}
    (hd : heatCircuitDemand c.name bodyHeating = some heating) :
    plainStatus freeze bodyHeating c = if heating then .on else .off := by
  unfold plainStatus
  rw [if_pos hh, hd]
  cases heating <;> rfl

/-- A plain circuit is on for freeze protection only through its own status. -/
theorem plainStatus_freezeProtected {freeze : Bool} {bodyHeating : Dict Bool} {c : ObjectData}
    (h : plainStatus freeze bodyHeating c = .freezeProtected) :
    ownStatus freeze c = .freezeProtected := by
  unfold plainStatus at h
  split at h
  · cases h
  · cases h
  · exact h

/-! ## Counting readings -/

/-- Readings with pairwise different keys hold one reading of a category and id, or none. -/
theorem KeysDistinct.length_filter {rs : List Reading} (h : KeysDistinct rs) (c : Category)
    (id : String) :
    (rs.filter fun r => decide (r.category = c ∧ r.entityId = id)).length =
      if ∃ r ∈ rs, r.category = c ∧ r.entityId = id then 1 else 0 := by
  split_ifs with hex
  · obtain ⟨r, hr, hc⟩ := hex
    have hpos : 0 < (rs.filter fun r => decide (r.category = c ∧ r.entityId = id)).length :=
      List.length_pos_of_mem (List.mem_filter.mpr ⟨hr, by simpa using hc⟩)
    have := h.length_filter_le_one c id
    omega
  · rw [List.length_eq_zero_iff, List.filter_eq_nil_iff]
    intro r hr hc
    exact hex ⟨r, hr, by simpa using hc⟩

/-- A derivation from a reachable cache holds one reading of a category and id when the map of
that category has the id, and none when it has not. -/
theorem count_derive {objects : Dict ObjectData} (hwf : CacheWF objects) (flags : Dict String)
    (cat : Category) (id : String) :
    ((derive objects flags).readings.filter
        fun r => decide (r.category = cat ∧ r.entityId = id)).length =
      if (derive objects flags).records cat id then 1 else 0 := by
  -- the maps agree with the readings, which are their reversed list
  have hex : (∃ r ∈ (derive objects flags).readings, r.category = cat ∧ r.entityId = id) ↔
      (derive objects flags).records cat id = true := by
    rw [agrees_derive objects flags cat id, Derived.readings]
    simp only [List.mem_reverse]
  rw [(keysDistinct_derive hwf flags).length_filter]
  by_cases h : (derive objects flags).records cat id = true
  · rw [if_pos (hex.mpr h), if_pos h]
  · rw [if_neg (mt hex.mp h), if_neg h]

/-! ## The circuits of a derivation -/

/-- **What the derivation writes for a circuit object**: a feature goes among the features with
its own status when it is shown, any other circuit among the circuits with its plain status,
both read against the controller's freeze protection and the bodies' heating by name. -/
theorem derive_get?_circuit {objects : Dict ObjectData} (hwf : CacheWF objects)
    (flags : Dict String) {c : ObjectData}
    (hc : c ∈ ofType (objects.toList.map (·.2)) ObjType.circuit) :
    let all := objects.toList.map (·.2)
    (derive objects flags).circuits.get? c.objnam =
        (if isFeature flags c.objnam then none
          else some (plainStatus (freezeActiveIn all)
            (Dict.ofList (heatingByName (ofType all ObjType.body))) c)) ∧
      (derive objects flags).features.get? c.objnam =
        (if isFeature flags c.objnam && featureShown flags c
          then some (ownStatus (freezeActiveIn all) c) else none) := by
  intro all
  -- the circuits' pass starts with no circuit or feature, and with freeze protection and the
  -- bodies' heating as the earlier passes found them
  obtain ⟨hcir₀, hfea₀, hfrz₀, hheat₀⟩ := heaterPass_keeps objects all
  obtain ⟨hcirc, hfeat⟩ := circuitPass_get? flags hwf.names_nodup (heaterPass objects all) hc
  obtain ⟨hcd, hfd⟩ := circuits_derive objects flags
  rw [hcd, hfd, hcirc, hfeat, hcir₀, hfea₀, plainEntry, featureEntry, hfrz₀, hheat₀,
    bodyHeating_bodyPass]
  constructor <;> split_ifs <;> rfl

/-- **Every circuit object ends up in exactly one place.** For a reachable cache and any feature
flags, each circuit object:

* if its name starts with `FTR` or it has a feature flag, is a feature: among the features, with
  one feature reading, exactly when its flag (its feature flag, else its menu text) ends in `w`
  once trimmed; and never among the circuits;
* otherwise is among the circuits with one circuit reading, and never among the features. Its
  status is freeze protection only when its status is on, it takes part in freeze protection,
  and an object of the same cache that is the controller (by name or by type) has its freeze
  parameter on. A heat circuit whose name contains the display name of a complete body follows
  the heating recorded for the first such display name in name order, the last complete body
  of that name by object name deciding: on or off, never freeze protection. -/
theorem circuits_partitioned {objects : Dict ObjectData} (hwf : CacheWF objects)
    (flags : Dict String) :
    let all := objects.toList.map (·.2)
    let bodies := ofType all ObjType.body
    let d := derive objects flags
    let count := fun (cat : Category) (id : String) =>
      (d.readings.filter fun r => decide (r.category = cat ∧ r.entityId = id)).length
    ∀ c ∈ ofType all ObjType.circuit,
      (isFeature flags c.objnam = true →
        (d.features.get? c.objnam).isSome = featureShown flags c ∧
        count .feature c.objnam = (if featureShown flags c then 1 else 0) ∧
        d.circuits.get? c.objnam = none ∧ count .circuit c.objnam = 0) ∧
      (isFeature flags c.objnam = false →
        d.features.get? c.objnam = none ∧ count .feature c.objnam = 0 ∧
        ∃ status, d.circuits.get? c.objnam = some status ∧ count .circuit c.objnam = 1 ∧
          (status = .freezeProtected →
            isOn ((c.get? Key.status).getD "") = true ∧
            ((c.get? Key.freeze).map isOn).getD false = true ∧
            ∃ o ∈ all, (o.objnam = systemObject ∨ o.objectType = some ObjType.system) ∧
              ((o.get? Key.freeze).map isOn).getD false = true) ∧
          (isHeatCircuit c.name = true →
            (∃ b ∈ bodies, (bodyDemand b).isSome ∧ b.name.isEmpty = false ∧
              containsText (toLower c.name) (toLower b.name) = true) →
            ∃ heating, heatCircuitDemand c.name (Dict.ofList (heatingByName bodies)) = some heating ∧
              status = if heating then .on else .off)) := by
  intro all bodies d count c hc
  obtain ⟨hcirc, hfeat⟩ := derive_get?_circuit hwf flags hc
  -- a map entry and the count of its readings go together
  have hcount : ∀ cat id, count cat id = if d.records cat id then 1 else 0 :=
    count_derive hwf flags
  refine ⟨fun hfeature => ?_, fun hplain => ?_⟩
  · -- a feature: shown or hidden, never a circuit
    have hcnone : d.circuits.get? c.objnam = none := by
      rw [hcirc, if_pos hfeature]
    have hfe : (d.features.get? c.objnam).isSome = featureShown flags c := by
      rw [hfeat, hfeature, Bool.true_and]
      cases featureShown flags c <;> rfl
    refine ⟨hfe, ?_, hcnone, ?_⟩
    · rw [hcount, Derived.records, Dict.contains_eq_isSome_get?, hfe]
    · rw [hcount, Derived.records, Dict.contains_eq_isSome_get?, hcnone]
      rfl
  · -- a plain circuit: one entry among the circuits, none among the features
    have hfnone : d.features.get? c.objnam = none := by
      rw [hfeat, hplain, Bool.false_and]
      rfl
    set status := plainStatus (freezeActiveIn all) (Dict.ofList (heatingByName bodies)) c
    have hcsome : d.circuits.get? c.objnam = some status := by
      rw [hcirc, hplain]
      rfl
    refine ⟨hfnone, ?_, status, hcsome, ?_, fun hfp => ?_, fun hheat hmatch => ?_⟩
    · rw [hcount, Derived.records, Dict.contains_eq_isSome_get?, hfnone]
      rfl
    · rw [hcount, Derived.records, Dict.contains_eq_isSome_get?, hcsome]
      rfl
    · obtain ⟨hon, hfr, hactive⟩ := ownStatus_freezeProtected (plainStatus_freezeProtected hfp)
      exact ⟨hon, hfr, (freezeActiveIn_iff all).mp hactive⟩
    · obtain ⟨b, hb, hd, hn, hcontains⟩ := hmatch
      obtain ⟨heating, hdemand⟩ := Option.isSome_iff_exists.mp
        (heatCircuitDemand_isSome hb hd hn hcontains)
      exact ⟨heating, hdemand, plainStatus_of_demand hheat hdemand⟩

/-- A shown feature, a hidden one, a freeze-protected circuit and a heat circuit following a
heating body. -/
theorem circuits_partitioned_features_and_heat :
    let objects := ([⟨"B1", ⟨[("HITMP", "90"), ("HTMODE", "1"), ("HTSRC", "H1"), ("LOTMP", "70"),
        ("OBJTYP", "BODY"), ("SNAME", "Spa"), ("TEMP", "80")]⟩⟩,
      ⟨"C1", ⟨[("OBJTYP", "CIRCUIT"), ("SNAME", "Spa Heat"), ("STATUS", "OFF")]⟩⟩,
      ⟨"C2", ⟨[("FREEZE", "ON"), ("OBJTYP", "CIRCUIT"), ("SNAME", "Cleaner"), ("STATUS", "ON")]⟩⟩,
      ⟨"FTR01", ⟨[("OBJTYP", "CIRCUIT"), ("SHOMNU", "fcsw"), ("SNAME", "Lights")]⟩⟩,
      ⟨"FTR02", ⟨[("OBJTYP", "CIRCUIT"), ("SHOMNU", "fcs"), ("SNAME", "Jets")]⟩⟩,
      ⟨"_5451", ⟨[("FREEZE", "ON"), ("OBJTYP", "SYSTEM")]⟩⟩] :
        List ObjectData).foldl EquipmentState.learn Dict.empty
    let all := objects.toList.map (·.2)
    let bodies := ofType all ObjType.body
    let d := derive objects Dict.empty
    let count := fun (cat : Category) (id : String) =>
      (d.readings.filter fun r => decide (r.category = cat ∧ r.entityId = id)).length
    CacheWF objects ∧
    ∀ c ∈ ofType all ObjType.circuit,
      (isFeature Dict.empty c.objnam = true →
        (d.features.get? c.objnam).isSome = featureShown Dict.empty c ∧
        count .feature c.objnam = (if featureShown Dict.empty c then 1 else 0) ∧
        d.circuits.get? c.objnam = none ∧ count .circuit c.objnam = 0) ∧
      (isFeature Dict.empty c.objnam = false →
        d.features.get? c.objnam = none ∧ count .feature c.objnam = 0 ∧
        ∃ status, d.circuits.get? c.objnam = some status ∧ count .circuit c.objnam = 1 ∧
          (status = .freezeProtected →
            isOn ((c.get? Key.status).getD "") = true ∧
            ((c.get? Key.freeze).map isOn).getD false = true ∧
            ∃ o ∈ all, (o.objnam = systemObject ∨ o.objectType = some ObjType.system) ∧
              ((o.get? Key.freeze).map isOn).getD false = true) ∧
          (isHeatCircuit c.name = true →
            (∃ b ∈ bodies, (bodyDemand b).isSome ∧ b.name.isEmpty = false ∧
              containsText (toLower c.name) (toLower b.name) = true) →
            ∃ heating, heatCircuitDemand c.name (Dict.ofList (heatingByName bodies)) = some heating ∧
              status = if heating then .on else .off)) :=
  ⟨cacheWF_empty.foldl_learn (by decide),
    circuits_partitioned (cacheWF_empty.foldl_learn (by decide)) Dict.empty⟩

/-- A heat circuit whose name contains the display names of two complete bodies follows the
first of them in name order: here the idle pool, not the heating spa. -/
theorem heat_circuit_follows_first_matching_name :
    let spa : ObjectData := ⟨"B1", ⟨[("HITMP", "90"), ("HTMODE", "1"), ("HTSRC", "H1"),
      ("LOTMP", "70"), ("OBJTYP", "BODY"), ("SNAME", "Spa"), ("TEMP", "80")]⟩⟩
    let objects := ([spa,
      ⟨"B2", ⟨[("HITMP", "90"), ("HTMODE", "0"), ("HTSRC", "H2"), ("LOTMP", "85"),
        ("OBJTYP", "BODY"), ("SNAME", "Pool"), ("TEMP", "80")]⟩⟩,
      ⟨"C1", ⟨[("OBJTYP", "CIRCUIT"), ("SNAME", "Pool Spa Heat"), ("STATUS", "ON")]⟩⟩] :
        List ObjectData).foldl EquipmentState.learn Dict.empty
    (bodyDemand spa).map (·.2.isHeating) = some true ∧
      containsText (toLower "Pool Spa Heat") (toLower spa.name) = true ∧
      (derive objects Dict.empty).circuits.get? "C1" = some .off := by
  decide +kernel

end Equipment

end PoolMonitor
