import Mathlib
import PoolMonitor.Proofs.DerivationPasses
/-!
# Heaters shared by bodies

A body is complete when it names a heater and its temperature, heat mode and both set points
are numbers; it then asks of its heater the status its heat mode gives (`bodyDemand`). The
derivation walks the bodies by object name and keeps, for each heater, the status that does the
most and the first body that asked for it; a later body replaces it only by asking for strictly
more. It also records each complete body's heating under the body's display name, a later body
of the same name overwriting an earlier one.

* `mostActive` is that walk on the list of what the bodies ask of one heater (`demandsOn`), and
  `mostActive_spec` says what it finds: the greatest status, in the order off, idle, cooling,
  heating, with the first body that asks for it;
* `get?_bodyPass_refs` and `bodyHeating_bodyPass` read the bodies' pass through these lists;
* `thermal_heaterPass` gives each heater's state after the heater steps: the status the bodies
  ask of a heater they name, and for a heater object no complete body names, the status its
  name and its own status give against the bodies' heating;
* `shared_heater_most_active` puts it together for a derivation, with the one state reading of a
  named heater, labelled with its body.
-/

namespace PoolMonitor.Equipment

open PoolMonitor.Wire

/-! ## What bodies ask of their heaters -/

/-- The heater a complete body names, and the status it asks of it. A body is complete when its
heater source names a heater and its temperature, heat mode and both set points are numbers. -/
def bodyDemand (b : ObjectData) : Option (String × ThermalStatus) :=
  match (b.get? Key.htsrc).bind heaterAssignment, number b Key.temp, number b Key.htmode,
      number b Key.lotmp, number b Key.hitmp with
  | some h, some t, some mode, some low, some high =>
    some (h, thermalStatus (Binary64.truncateToInt64 mode) t low high)
  | _, _, _, _, _ => none

/-- What the complete bodies naming heater `h` ask of it, with their display names, in order. -/
def demandsOn (h : String) (bodies : List ObjectData) : List (ThermalStatus × String) :=
  bodies.filterMap fun b =>
    (bodyDemand b).bind fun d => if d.1 = h then some (d.2, b.name) else none

/-- Each complete body's display name, and whether it asks for heat, in order. -/
def heatingByName (bodies : List ObjectData) : List (String × Bool) :=
  bodies.filterMap fun b => (bodyDemand b).map fun d => (b.name, d.2.isHeating)

/-- Keep the status that does more: a new request replaces the kept one only by doing strictly
more. -/
def pick : Option (ThermalStatus × String) → ThermalStatus × String → Option (ThermalStatus × String)
  | none, p => some p
  | some cur, p => if p.1.rank > cur.1.rank then some p else some cur

/-- The request that does the most, the first of those that do. -/
def mostActive (l : List (ThermalStatus × String)) : Option (ThermalStatus × String) :=
  l.foldl pick none

/-- Record a body's request for heater `h` among the heaters named so far. -/
def offer (refs : Referenced) (h : String) (s : ThermalStatus) (owner : String) : Referenced :=
  match refs.get? h with
  | some (current, _) => if s.rank > current.rank then refs.insert h (s, owner) else refs
  | none => refs.insert h (s, owner)

theorem get?_offer (refs : Referenced) (h : String) (s : ThermalStatus) (owner k : String) :
    (offer refs h s owner).get? k = if k = h then pick (refs.get? h) (s, owner) else refs.get? k := by
  unfold offer
  cases hr : refs.get? h with
  | none => simp [pick]
  | some cur =>
    obtain ⟨c, o⟩ := cur
    simp only [pick]
    split_ifs with hlt hk hk
    · simp [hk]
    · simp [hk]
    · rw [hk, hr]
    · rfl

/-! ## The request that does the most -/

theorem mostActive_append_single (l : List (ThermalStatus × String)) (p : ThermalStatus × String) :
    mostActive (l ++ [p]) = pick (mostActive l) p := by
  simp [mostActive, List.foldl_append]

/-- **The walk keeps the greatest status and the first body that asks for it.** Induction on the
requests from the last one: a request that does strictly more than all before it takes over,
and no earlier request asked for its status; any other leaves the kept one. -/
theorem mostActive_spec {l : List (ThermalStatus × String)} (hl : l ≠ []) :
    ∃ s owner, mostActive l = some (s, owner) ∧ (∀ p ∈ l, p.1.rank ≤ s.rank) ∧
      l.find? (fun p => decide (p.1 = s)) = some (s, owner) := by
  induction l using List.reverseRecOn with
  | nil => exact absurd rfl hl
  | append_singleton l p ih =>
    rw [mostActive_append_single]
    by_cases hnil : l = []
    · subst hnil
      exact ⟨p.1, p.2, rfl, by simp, by simp⟩
    obtain ⟨s, owner, hm, hmax, hfind⟩ := ih hnil
    rw [hm]
    by_cases hlt : p.1.rank > s.rank
    · -- `p` asks for more than every earlier request
      refine ⟨p.1, p.2, by simp [pick, hlt], fun q hq => ?_, ?_⟩
      · rcases List.mem_append.mp hq with hq | hq
        · exact le_of_lt (lt_of_le_of_lt (hmax q hq) hlt)
        · simp [List.mem_singleton.mp hq]
      · have hnone : l.find? (fun q => decide (q.1 = p.1)) = none := by
          rw [List.find?_eq_none]
          intro q hq heq
          have := hmax q hq
          rw [of_decide_eq_true heq] at this
          omega
        simp [List.find?_append, hnone]
    · -- the kept request stays, and so does the first body that asked for it
      refine ⟨s, owner, by simp [pick, hlt], fun q hq => ?_, by simp [List.find?_append, hfind]⟩
      rcases List.mem_append.mp hq with hq | hq
      · exact hmax q hq
      · rw [List.mem_singleton.mp hq]
        omega

/-- Idle, then heating twice: the first body asking for heat keeps the heater. -/
example : mostActive [(.idle, "Pool"), (.heating, "Spa"), (.heating, "Spa 2")] = some (.heating, "Spa") :=
  rfl

theorem mostActive_eq_none_iff (l : List (ThermalStatus × String)) : mostActive l = none ↔ l = [] := by
  constructor
  · intro h
    by_contra hl
    obtain ⟨s, owner, hm, -⟩ := mostActive_spec hl
    rw [hm] at h
    cases h
  · rintro rfl
    rfl

/-! ## The bodies' pass -/

/-- **One body**, through what it asks: a complete body records its heating under its display
name and offers its request to its heater; any other body records neither. -/
theorem body_demand (d : Derived) (refs : Referenced) (b : ObjectData) :
    (d.body refs b).2 =
        (match bodyDemand b with
        | some (h, s) => offer refs h s b.name
        | none => refs) ∧
      (d.body refs b).1.bodyHeating =
        match bodyDemand b with
        | some (_, s) => d.bodyHeating.insert b.name s.isHeating
        | none => d.bodyHeating := by
  unfold Derived.body bodyDemand
  cases (b.get? Key.htsrc).bind heaterAssignment <;> cases number b Key.temp <;>
    cases number b Key.htmode <;> cases number b Key.lotmp <;> cases number b Key.hitmp <;>
    exact ⟨rfl, rfl⟩

/-- The heating recorded by a walk over bodies: each complete body's, in order, over what was
there. -/
theorem bodyHeating_foldl_body (bodies : List ObjectData) (d : Derived) (refs : Referenced) :
    (bodies.foldl (fun acc b => acc.1.body acc.2 b) (d, refs)).1.bodyHeating =
      (heatingByName bodies).foldl (fun m e => m.insert e.1 e.2) d.bodyHeating := by
  induction bodies generalizing d refs with
  | nil => rfl
  | cons b rest ih =>
    rw [List.foldl_cons, ih]
    dsimp only
    rw [(body_demand d refs b).2]
    simp only [heatingByName, List.filterMap_cons]
    cases bodyDemand b <;> rfl

/-- What a walk over bodies keeps for heater `h`: the walk of `pick` over the requests for `h`,
from what was kept before. -/
theorem get?_foldl_body_refs (bodies : List ObjectData) (d : Derived) (refs : Referenced)
    (h : String) :
    (bodies.foldl (fun acc b => acc.1.body acc.2 b) (d, refs)).2.get? h =
      (demandsOn h bodies).foldl pick (refs.get? h) := by
  induction bodies generalizing d refs with
  | nil => rfl
  | cons b rest ih =>
    rw [List.foldl_cons, ih]
    dsimp only
    rw [(body_demand d refs b).1]
    simp only [demandsOn, List.filterMap_cons]
    cases hb : bodyDemand b with
    | none => rfl
    | some hs =>
      obtain ⟨h', s⟩ := hs
      rw [get?_offer]
      by_cases hh : h' = h
      · subst hh
        simp
      · simp [hh, Ne.symm hh]

/-- The bodies' heating after the bodies' pass: the complete bodies' heating by display name,
a later body of a name winning. -/
theorem bodyHeating_bodyPass (all : List ObjectData) :
    (bodyPass all).1.bodyHeating = Dict.ofList (heatingByName (ofType all ObjType.body)) :=
  bodyHeating_foldl_body _ _ _

/-- The request kept for heater `h` after the bodies' pass is the one that does the most. -/
theorem get?_bodyPass_refs (all : List ObjectData) (h : String) :
    (bodyPass all).2.get? h = mostActive (demandsOn h (ofType all ObjType.body)) :=
  get?_foldl_body_refs _ _ _ h

/-- A heater is named by the bodies' pass exactly when some complete body asks for it. -/
theorem contains_bodyPass_refs (all : List ObjectData) (h : String) :
    (bodyPass all).2.contains h = false ↔ demandsOn h (ofType all ObjType.body) = [] := by
  rw [← mostActive_eq_none_iff, ← get?_bodyPass_refs, ← Option.not_isSome_iff_eq_none,
    ← Dict.contains_iff_get?_isSome, Bool.not_eq_true]

/-! ## The heater steps -/

/-- The heater state after the heaters named by bodies: a named heater's status is the one kept
for it. -/
theorem thermal_foldl_referencedHeater (objects : Dict ObjectData) {refs : Referenced}
    (hrefs : refs.Sorted) (d : Derived) (k : String) :
    (refs.toList.foldl (Derived.referencedHeater objects) d).thermal.get? k =
      ((refs.get? k).map (·.1)).or (d.thermal.get? k) := by
  rw [get?_foldl_own Derived.thermal (fun e : String × ThermalStatus × String => e.1)
    (fun _ e => some e.2.1) (Derived.referencedHeater objects) (fun _ _ => rfl)
    (fun _ _ _ => rfl) _ hrefs.keys_nodup]
  unfold Dict.get?
  cases refs.toList.find? (fun e => e.1 == k) <;> rfl

/-- The heater state after the other heaters: a heater object the bodies do not name takes the
status its name and its own status give against the bodies' heating; the others keep theirs. -/
theorem thermal_foldl_heater (refs : Referenced) {heaters : List ObjectData}
    (hnd : (heaters.map (·.objnam)).Nodup) (d : Derived) (k : String) :
    (heaters.foldl (Derived.heater refs) d).thermal.get? k =
      ((heaters.find? (fun o => o.objnam == k)).bind fun o =>
        if refs.contains o.objnam then none
        else some (unreferencedHeaterStatus o.name (o.get? Key.status) d.bodyHeating)).or
          (d.thermal.get? k) := by
  refine get?_foldl_own Derived.thermal (fun o : ObjectData => o.objnam)
    (fun (d : Derived) (o : ObjectData) => if refs.contains o.objnam then none
      else some (unreferencedHeaterStatus o.name (o.get? Key.status) d.bodyHeating))
    (Derived.heater refs) (fun d o => ?_) (fun d o o' => by rw [Derived.bodyHeating_heater]) _
    hnd d k
  unfold Derived.heater
  split <;> rfl

/-- **Heater states after the heater steps.** A heater some complete body names has the status
kept for it; a heater object that no complete body names has the status its name and its own
status give against the bodies' heating. -/
theorem thermal_heaterPass {objects : Dict ObjectData} (hwf : CacheWF objects) :
    let all := objects.toList.map (·.2)
    let bodies := ofType all ObjType.body
    (∀ h, demandsOn h bodies ≠ [] →
      (heaterPass objects all).thermal.get? h = (mostActive (demandsOn h bodies)).map (·.1)) ∧
    (∀ o ∈ ofType all ObjType.heater, demandsOn o.objnam bodies = [] →
      (heaterPass objects all).thermal.get? o.objnam =
        some (unreferencedHeaterStatus o.name (o.get? Key.status)
          (Dict.ofList (heatingByName bodies)))) := by
  intro all bodies
  have hnd := names_ofType_nodup hwf.names_nodup ObjType.heater
  have hsorted : (bodyPass all).2.Sorted := sorted_foldl_body_refs _ _ Dict.sorted_empty
  -- the bodies' heating as the heater steps see it
  have hheat : (((bodyPass all).2.toList.foldl (Derived.referencedHeater objects)
      (bodyPass all).1)).bodyHeating = Dict.ofList (heatingByName bodies) := by
    rw [foldl_keeps _ _ (Derived.bodyHeating_referencedHeater objects), bodyHeating_bodyPass]
  refine ⟨fun h hh => ?_, fun o ho hno => ?_⟩
  · -- a named heater: the heater steps skip any heater object of its name
    rw [heaterPass, thermal_foldl_heater _ hnd]
    have hnamed : (bodyPass all).2.contains h = true := by
      cases hc : (bodyPass all).2.contains h
      · exact absurd ((contains_bodyPass_refs all h).mp hc) hh
      · rfl
    have hkept : (((bodyPass all).2.toList.foldl (Derived.referencedHeater objects)
        (bodyPass all).1)).thermal.get? h = (mostActive (demandsOn h bodies)).map (·.1) := by
      rw [thermal_foldl_referencedHeater objects hsorted, get?_bodyPass_refs]
      obtain ⟨s, owner, hm, -⟩ := mostActive_spec hh
      simp [bodies, hm]
    cases hf : (ofType all ObjType.heater).find? (fun o => o.objnam == h) with
    | none => exact hkept
    | some o =>
      have ho : o.objnam = h := by simpa using List.find?_some hf
      simp only [Option.bind_some, ho, hnamed, if_true, Option.none_or]
      exact hkept
  · -- an unnamed heater object: its own step writes it
    rw [heaterPass, thermal_foldl_heater _ hnd, find?_name_of_mem hnd ho]
    have hfree : (bodyPass all).2.contains o.objnam = false :=
      (contains_bodyPass_refs all o.objnam).mpr hno
    simp [hfree, hheat]

/-! ## The state reading of a named heater -/

/-- The state reading of a heater named by a body carries the body's display name. -/
theorem referencedHeater_emits (objects : Dict ObjectData) (d : Derived)
    (e : String × ThermalStatus × String) :
    ∃ r, (d.referencedHeater objects e).readingsRev = r :: d.readingsRev ∧
      r.category = .thermal ∧ r.entityId = e.1 ∧ r.labels = [("body", e.2.2)] := by
  obtain ⟨h, s, owner⟩ := e
  exact ⟨_, rfl, rfl, rfl, rfl⟩

/-- Every heater the bodies name gets its labelled reading from the heater steps. -/
theorem labelled_reading_heaterPass (objects : Dict ObjectData) (all : List ObjectData)
    {e : String × ThermalStatus × String} (he : e ∈ (bodyPass all).2.toList) :
    ∃ r ∈ (heaterPass objects all).readingsRev,
      r.category = .thermal ∧ r.entityId = e.1 ∧ r.labels = [("body", e.2.2)] := by
  -- the heaters named by bodies: the step of `e` adds the reading, the others keep it
  have hrefs : ∀ (es : List (String × ThermalStatus × String)) (d : Derived), e ∈ es →
      ∃ r ∈ (es.foldl (Derived.referencedHeater objects) d).readingsRev,
        r.category = .thermal ∧ r.entityId = e.1 ∧ r.labels = [("body", e.2.2)] := by
    intro es
    induction es with
    | nil => intro d he; simp at he
    | cons e' rest ih =>
      intro d he'
      rcases List.mem_cons.mp he' with rfl | hrest
      · obtain ⟨r, hr, hc, hid, hl⟩ := referencedHeater_emits objects d e
        refine ⟨r, ?_, hc, hid, hl⟩
        refine mem_readingsRev_foldl _ (fun d e _ h => (adds_referencedHeater objects d e).mem h)
          rest _ ?_
        rw [hr]
        exact List.mem_cons_self
      · exact ih _ hrest
  obtain ⟨r, hr, hrest⟩ := hrefs _ (bodyPass all).1 he
  -- the other heaters keep it
  exact ⟨r, mem_readingsRev_foldl _ (fun d o _ h => (adds_heater _ d o).mem h) _ _ hr, hrest⟩

/-- A list with at most one element that holds `r` is `[r]`. -/
theorem eq_singleton_of_length_le_one {α : Type} {l : List α} (hl : l.length ≤ 1) {r : α}
    (hr : r ∈ l) : l = [r] := by
  match l, hl, hr with
  | [a], _, hr => rw [List.mem_singleton.mp hr]

/-- The objects of a reachable cache are listed by increasing object name. -/
theorem CacheWF.names_sorted {objects : Dict ObjectData} (h : CacheWF objects) :
    ((objects.toList.map (·.2)).map (·.objnam)).Pairwise (· < ·) := by
  rw [List.map_map]
  have : objects.toList.map ((·.objnam) ∘ (·.2)) = objects.toList.map (·.1) :=
    List.map_congr_left fun e he => h.named e he
  rw [this, List.pairwise_map]
  exact h.sorted

/-- **A heater shared by bodies reports the most active demand.** For a reachable cache and any
feature flags, with the bodies listed by object name:

* a heater that some complete body names has the greatest status those bodies ask of it (in the
  order off, idle, cooling, heating), and exactly one state reading, labelled with the display
  name of the first of those bodies that asks for that status;
* a heater object that no complete body names has the status its name and its own status give
  against the bodies' heating;
* the bodies' heating records each complete body's display name and whether it asks for heat, a
  later body of a name winning over an earlier one. -/
theorem shared_heater_most_active {objects : Dict ObjectData} (hwf : CacheWF objects)
    (flags : Dict String) :
    let all := objects.toList.map (·.2)
    let bodies := ofType all ObjType.body
    let d := derive objects flags
    (bodies.map (·.objnam)).Pairwise (· < ·) ∧
    (∀ h, demandsOn h bodies ≠ [] →
      ∃ s owner, d.thermal.get? h = some s ∧ (∀ p ∈ demandsOn h bodies, p.1.rank ≤ s.rank) ∧
        (demandsOn h bodies).find? (fun p => decide (p.1 = s)) = some (s, owner) ∧
        ∃ r, d.readings.filter (fun r => decide (r.category = .thermal ∧ r.entityId = h)) = [r] ∧
          r.labels = [("body", owner)]) ∧
    (∀ o ∈ ofType all ObjType.heater, demandsOn o.objnam bodies = [] →
      d.thermal.get? o.objnam =
        some (unreferencedHeaterStatus o.name (o.get? Key.status) d.bodyHeating)) ∧
    d.bodyHeating = Dict.ofList (heatingByName bodies) := by
  intro all bodies d
  obtain ⟨hnamed, hunnamed⟩ := thermal_heaterPass hwf
  have hheat : d.bodyHeating = Dict.ofList (heatingByName bodies) := by
    rw [bodyHeating_derive, bodyHeating_bodyPass]
  refine ⟨hwf.names_sorted.sublist (List.filter_sublist.map _), fun h hh => ?_,
    fun o ho hno => ?_, hheat⟩
  · obtain ⟨s, owner, hm, hmax, hfind⟩ := mostActive_spec hh
    refine ⟨s, owner, ?_, hmax, hfind, ?_⟩
    · rw [thermal_derive, hnamed h hh, hm]
      rfl
    · -- the heater's entry among the named ones gives the labelled reading, the only one of its key
      have hentry : (h, s, owner) ∈ (bodyPass all).2.toList :=
        Dict.mem_of_get?_eq_some (by rw [get?_bodyPass_refs, hm])
      obtain ⟨r, hr, hc, hid, hl⟩ := labelled_reading_heaterPass objects all hentry
      refine ⟨r, eq_singleton_of_length_le_one
        ((keysDistinct_derive hwf flags).length_filter_le_one .thermal h) ?_, hl⟩
      exact List.mem_filter.mpr ⟨mem_readingsRev_derive objects flags hr, by simp [hc, hid]⟩
  · rw [thermal_derive, hunnamed o ho hno, hheat]

/-- Three bodies on one heater (idle, heating, heating) and a heater no body names. -/
theorem shared_heater_most_active_three_bodies :
    let objects := ([⟨"B1", ⟨[("HITMP", "85"), ("HTMODE", "0"), ("HTSRC", "H1"), ("LOTMP", "75"),
        ("OBJTYP", "BODY"), ("SNAME", "Pool"), ("TEMP", "80")]⟩⟩,
      ⟨"B2", ⟨[("HITMP", "100"), ("HTMODE", "1"), ("HTSRC", "H1"), ("LOTMP", "95"),
        ("OBJTYP", "BODY"), ("SNAME", "Spa"), ("TEMP", "90")]⟩⟩,
      ⟨"B3", ⟨[("HITMP", "100"), ("HTMODE", "4"), ("HTSRC", " H1 "), ("LOTMP", "95"),
        ("OBJTYP", "BODY"), ("SNAME", "Spa"), ("TEMP", "90")]⟩⟩,
      ⟨"H1", ⟨[("OBJTYP", "HEATER")]⟩⟩,
      ⟨"H2", ⟨[("OBJTYP", "HEATER"), ("SNAME", "Pool heater"), ("STATUS", "ON")]⟩⟩] :
        List ObjectData).foldl EquipmentState.learn Dict.empty
    let all := objects.toList.map (·.2)
    let bodies := ofType all ObjType.body
    let d := derive objects Dict.empty
    CacheWF objects ∧
    (bodies.map (·.objnam)).Pairwise (· < ·) ∧
    (∀ h, demandsOn h bodies ≠ [] →
      ∃ s owner, d.thermal.get? h = some s ∧ (∀ p ∈ demandsOn h bodies, p.1.rank ≤ s.rank) ∧
        (demandsOn h bodies).find? (fun p => decide (p.1 = s)) = some (s, owner) ∧
        ∃ r, d.readings.filter (fun r => decide (r.category = .thermal ∧ r.entityId = h)) = [r] ∧
          r.labels = [("body", owner)]) ∧
    (∀ o ∈ ofType all ObjType.heater, demandsOn o.objnam bodies = [] →
      d.thermal.get? o.objnam =
        some (unreferencedHeaterStatus o.name (o.get? Key.status) d.bodyHeating)) ∧
    d.bodyHeating = Dict.ofList (heatingByName bodies) :=
  ⟨cacheWF_empty.foldl_learn (by decide),
    shared_heater_most_active (cacheWF_empty.foldl_learn (by decide)) Dict.empty⟩

end PoolMonitor.Equipment
