import Mathlib
import PoolMonitor.Proofs.MinderRuns
import PoolMonitor.Proofs.Rebuild
/-!
# First sightings

A reading under a key the tracker has not seen is a first sighting until the first full snapshot
is complete, and is recorded without an event after it. The minder marks the snapshot complete
right after applying one, and a reset forgets everything. This module shows that first
sightings come from snapshots only, and that the first snapshot after a start or a reset reports
each of its readings once, as a first sighting:

* **`events_apply`** — an update's events are, reading by reading in reading order, the event
  each reading gives against the tracker as it stood before the update (`reportEvent`): no two
  readings of one derivation share a key, so none sees another's write;
* **`Minder.Inv`** — while the minder waits, its equipment state is a fresh one with the current
  flags; once it has a snapshot, its tracker knows the first snapshot is complete. Every update
  keeps this (`Minder.Inv.handle`), so it holds after any history (`Minder.inv_run`);
* **`detected_only_from_snapshots`** — no push or poll reports a first sighting; the first
  snapshot after a start or a reset reports, after the rebuild report when one is owed, exactly
  one first sighting per reading it derives, in order; and after it a key first seen in a push
  or a poll is recorded without an event.
-/

namespace PoolMonitor.Equipment

open PoolMonitor.Wire

namespace EventKind

def isDetected : EventKind → Bool
  | .detected .. => true
  | _ => false

/-- The key an event is about, if it is about one. -/
def key? : EventKind → Option String
  | .detected key _ => some key
  | .changed key .. => some key
  | _ => none

end EventKind

/-! ## One observation -/

namespace Tracker

@[simp] theorem initialDone_observe (t : Tracker) (k v : String) :
    (t.observe k v).2.initialDone = t.initialDone := by
  unfold observe
  split
  · split <;> rfl
  · rfl

theorem observe_of_get?_none {t : Tracker} {k : String} (h : t.get? k = none) (v : String) :
    t.observe k v =
      (if t.initialDone then .recorded else .detected, { t with values := t.values.insert k v }) := by
  unfold observe
  unfold get? at h
  rw [h]

theorem observe_of_get?_some {t : Tracker} {k prev : String} (h : t.get? k = some prev)
    (v : String) :
    t.observe k v =
      if prev == v then (.unchanged, t) else (.changed prev, { t with values := t.values.insert k v }) := by
  unfold observe
  unfold get? at h
  rw [h]

end Tracker

/-! ## The events of one update -/

/-- The event a reading gives against a tracker that no other reading of its update has
written to: a first sighting of a new key before the first full snapshot, a change of a known
key's text, or nothing. -/
def reportEvent (source : Source) (t : Tracker) (r : Reading) : Option Event :=
  match t.get? r.key with
  | none => if t.initialDone then none else some ⟨source, .detected r.key r.displayValue⟩
  | some prev =>
    if prev == r.displayValue then none else some ⟨source, .changed r.key prev r.displayValue⟩

theorem reportEvent_congr (source : Source) {t t' : Tracker} {r : Reading}
    (hk : t'.get? r.key = t.get? r.key) (hd : t'.initialDone = t.initialDone) :
    reportEvent source t' r = reportEvent source t r := by
  unfold reportEvent
  rw [hk, hd]

/-- The event a reading gives names the reading's key. -/
theorem key?_reportEvent {source : Source} {t : Tracker} {r : Reading} {e : Event}
    (h : reportEvent source t r = some e) : e.kind.key? = some r.key := by
  unfold reportEvent at h
  split at h
  all_goals
    split at h
    all_goals cases h
    rfl

/-- Once the first snapshot is complete, no reading is a first sighting. -/
theorem isDetected_reportEvent {source : Source} {t : Tracker} (ht : t.initialDone = true)
    {r : Reading} {e : Event} (h : reportEvent source t r = some e) : e.kind.isDetected = false := by
  unfold reportEvent at h
  split at h
  · simp [ht] at h
  · -- a known key gives a change or nothing
    split at h
    · cases h
    · cases h
      rfl

/-- Once the first snapshot is complete, a reading under a new key gives no event. -/
theorem reportEvent_of_new (source : Source) {t : Tracker} (ht : t.initialDone = true)
    {r : Reading} (hr : t.get? r.key = none) : reportEvent source t r = none := by
  unfold reportEvent
  rw [hr, ht]
  rfl

/-- Against a fresh tracker every reading is a first sighting. -/
theorem filterMap_reportEvent_fresh (source : Source) (rs : List Reading) :
    rs.filterMap (reportEvent source {}) =
      rs.map fun r => ⟨source, .detected r.key r.displayValue⟩ := by
  induction rs with
  | nil => rfl
  | cons r rest ih =>
    rw [List.filterMap_cons, List.map_cons, ← ih]
    rfl

namespace EquipmentState

/-- One report writes the tracker as observing does and prepends the reading's event. -/
theorem report_eq (source : Source) (t : Tracker) (c : Nat) (evs : List Event) (r : Reading) :
    report source (t, c, evs) r = ((t.observe r.key r.displayValue).2,
      (report source (t, c, evs) r).2.1, (reportEvent source t r).toList ++ evs) := by
  refine Prod.ext (report_fst source t c evs r) (Prod.ext rfl ?_)
  unfold report reportEvent
  simp only []
  cases h : t.get? r.key with
  | none =>
    rw [Tracker.observe_of_get?_none h]
    cases t.initialDone <;> rfl
  | some prev =>
    rw [Tracker.observe_of_get?_some h]
    by_cases hv : prev = r.displayValue
    · simp [hv]
    · simp [hv]

/-- **A report of readings with distinct keys gives each reading's event against the tracker it
started from**, in reading order (the list of events is kept last first). Induction on the
readings: a report writes only its own key, which no later reading has. -/
theorem report_foldl_eq (source : Source) {rs : List Reading} (hrs : KeysDistinct rs)
    (t : Tracker) (c : Nat) (evs : List Event) :
    (rs.foldl (report source) (t, c, evs)).2.2 =
      (rs.filterMap (reportEvent source t)).reverse ++ evs := by
  induction rs generalizing t c evs with
  | nil => rfl
  | cons r rest ih =>
    obtain ⟨hr, hrest⟩ := List.pairwise_cons.mp hrs
    -- the later readings see the tracker as it was, their keys being other than `r`'s
    have hsame : rest.filterMap (reportEvent source (t.observe r.key r.displayValue).2) =
        rest.filterMap (reportEvent source t) := by
      apply List.filterMap_congr
      intro r' hr'
      apply reportEvent_congr
      · rw [Tracker.get?_observe, if_neg (Ne.symm (hr r' hr'))]
      · exact Tracker.initialDone_observe _ _ _
    rw [List.foldl_cons, report_eq, ih hrest, hsame, List.filterMap_cons]
    cases reportEvent source t r <;> simp

/-- Once the first snapshot is complete, reports add no first sighting, whatever the keys. -/
theorem report_foldl_not_detected (source : Source) (rs : List Reading) {t : Tracker}
    (ht : t.initialDone = true) {c : Nat} {evs : List Event}
    (hevs : ∀ e ∈ evs, e.kind.isDetected = false) :
    ∀ e ∈ (rs.foldl (report source) (t, c, evs)).2.2, e.kind.isDetected = false := by
  induction rs generalizing t c evs with
  | nil => exact hevs
  | cons r rest ih =>
    rw [List.foldl_cons, report_eq]
    apply ih (by rw [Tracker.initialDone_observe, ht])
    intro e he
    rcases List.mem_append.mp he with he | he
    · exact isDetected_reportEvent ht (Option.mem_toList.mp he)
    · exact hevs e he

end EquipmentState

/-- **The events of an update**, when the updated cache is reachable: each reading's event
against the tracker as it stood before the update, in reading order. -/
theorem events_apply (s : EquipmentState) (objs : List ObjectData) (source : Source)
    (h : CacheWF (objs.foldl EquipmentState.learn s.objects)) :
    (s.apply objs source).2.events =
      (derive (objs.foldl EquipmentState.learn s.objects) s.featureFlags).readings.filterMap
        (reportEvent source s.tracker) := by
  have hfold := EquipmentState.report_foldl_eq source (keysDistinct_derive h s.featureFlags)
    s.tracker 0 []
  unfold EquipmentState.apply
  simp only [hfold, List.append_nil, List.reverse_reverse]

theorem tracker_apply_get? (s : EquipmentState) (objs : List ObjectData) (source : Source)
    (h : CacheWF (objs.foldl EquipmentState.learn s.objects)) :
    ∀ r ∈ (s.apply objs source).2.readings, (s.apply objs source).1.tracker.get? r.key =
      some r.displayValue :=
  EquipmentState.report_known source (keysDistinct_derive h s.featureFlags) _

/-- Reports observe each reading once, and observing keeps the tracker's flag. -/
theorem initialDone_report_foldl (source : Source) (rs : List Reading)
    (acc : Tracker × Nat × List Event) :
    (rs.foldl (EquipmentState.report source) acc).1.initialDone = acc.1.initialDone := by
  induction rs generalizing acc with
  | nil => rfl
  | cons r rest ih =>
    obtain ⟨t, c, evs⟩ := acc
    rw [List.foldl_cons, ih, EquipmentState.report_fst, Tracker.initialDone_observe]

theorem initialDone_apply (s : EquipmentState) (objs : List ObjectData) (source : Source) :
    (s.apply objs source).1.tracker.initialDone = s.tracker.initialDone :=
  initialDone_report_foldl source _ (s.tracker, 0, [])

/-! ## The minder's invariant -/

namespace Update

/-- The flags an update sets, if it sets them. -/
def flags? : Update → Option (Dict String)
  | .featureFlags flags => some flags
  | _ => none

end Update

namespace Minder

/-- The flags of the last feature-flag update; none before the first. -/
def flagsAfter (us : List Update) : Dict String :=
  ((us.filterMap Update.flags?).getLast?).getD Dict.empty

theorem flagsAfter_append_single (us : List Update) (u : Update) :
    flagsAfter (us ++ [u]) = u.flags?.getD (flagsAfter us) := by
  unfold flagsAfter
  cases h : u.flags? <;> simp [List.filterMap_append, h]

theorem featureFlags_handle (m : Minder) (u : Update) :
    (m.handle u).1.state.featureFlags = u.flags?.getD m.state.featureFlags := by
  cases u with
  | push objs =>
    show _ = m.state.featureFlags
    simp only [handle]
    split <;> rfl
  | pollCycle objs failed =>
    show _ = m.state.featureFlags
    simp only [handle]
    split <;> rfl
  | _ => rfl

/-- **The flags in force are those of the last feature-flag update**; resets keep them. -/
theorem featureFlags_run (us : List Update) :
    (({} : Minder).run us).state.featureFlags = flagsAfter us := by
  induction us using List.reverseRecOn with
  | nil => rfl
  | append_singleton us u ih =>
    rw [run_append_single, featureFlags_handle, ih, flagsAfter_append_single]

/-- The minder's state against its flags: waiting, it is a fresh state with the current flags;
holding a snapshot, its tracker knows the first snapshot is complete. -/
structure Inv (m : Minder) : Prop where
  waiting : m.awaitingInitial = true → m.state = { featureFlags := m.state.featureFlags }
  settled : m.awaitingInitial = false → m.state.tracker.initialDone = true

theorem inv_empty : Inv ({} : Minder) where
  waiting _ := rfl
  settled h := (Bool.false_ne_true h.symm).elim

/-- Every update keeps the invariant: a reset and a dropped update leave the minder waiting on a
fresh state, feature flags touch only the flags, and an applied update keeps the tracker's
flag, which a snapshot sets. -/
theorem Inv.handle {m : Minder} (hm : m.Inv) (u : Update) : (m.handle u).1.Inv := by
  cases u with
  | featureFlags flags =>
    constructor
    · intro hw
      simp only [Minder.handle, EquipmentState.setFeatureFlags] at hw ⊢
      rw [hm.waiting hw]
    · intro hw
      exact hm.settled hw
  | reset => exact ⟨fun _ => rfl, fun h => (Bool.false_ne_true h.symm).elim⟩
  | initial source objs =>
    exact ⟨fun h => absurd h Bool.false_ne_true, fun _ => rfl⟩
  | push objs =>
    by_cases hw : m.awaitingInitial = true
    · simp only [Minder.handle, hw, if_true]
      exact hm
    · have hw' : m.awaitingInitial = false := by simpa using hw
      simp only [Minder.handle, hw', Bool.false_eq_true, if_false]
      refine ⟨fun h => absurd h Bool.false_ne_true, fun _ => ?_⟩
      rw [initialDone_apply]
      exact hm.settled hw'
  | pollCycle objs failed =>
    by_cases hw : m.awaitingInitial = true
    · simp only [Minder.handle, hw, if_true]
      exact hm
    · have hw' : m.awaitingInitial = false := by simpa using hw
      simp only [Minder.handle, hw', Bool.false_eq_true, if_false]
      refine ⟨fun h => absurd h Bool.false_ne_true, fun _ => ?_⟩
      rw [initialDone_apply]
      exact hm.settled hw'

theorem inv_run (us : List Update) : (({} : Minder).run us).Inv := by
  induction us using List.reverseRecOn with
  | nil => exact inv_empty
  | append_singleton us u ih =>
    rw [run_append_single]
    exact ih.handle u

/-! ## What one update reports -/

/-- Only a snapshot reports a first sighting: a push or a poll is dropped while waiting and is
applied to a tracker that knows the first snapshot is complete otherwise. -/
theorem isDetected_handle {m : Minder} (hm : m.Inv) {u : Update} (hu : u.isInitial = false) :
    ∀ e ∈ (m.handle u).2.events, e.kind.isDetected = false := by
  cases u with
  | featureFlags flags => simp [handle]
  | reset => simp [handle]
  | initial source objs => simp [Update.isInitial] at hu
  | push objs =>
    simp only [handle]
    split
    · simp
    · next hw =>
      intro e he
      exact EquipmentState.report_foldl_not_detected .push _ (hm.settled (by simpa using hw))
        (by simp) e (List.mem_reverse.mp he)
  | pollCycle objs failed =>
    simp only [handle]
    split
    · simp
    · next hw =>
      intro e he
      rcases List.mem_append.mp he with he | he
      · exact EquipmentState.report_foldl_not_detected .poll _ (hm.settled (by simpa using hw))
          (by simp) e (List.mem_reverse.mp he)
      · -- the quiet-poll report is no first sighting
        split at he
        · rw [List.mem_singleton.mp he]
          rfl
        · simp at he

/-- **The first snapshot on a waiting minder reports every reading once, as a first sighting**,
in reading order, after the rebuild report when one is owed: the state it is applied to is a
fresh one with the current flags. -/
theorem handle_initial_of_waiting {m : Minder} (hm : m.Inv) (hw : m.awaitingInitial = true)
    (source : Source) {objs : List ObjectData} (hobjs : ∀ o ∈ objs, o.WellFormed) :
    (m.handle (.initial source objs)).2.readings =
        (derive (objs.foldl EquipmentState.learn Dict.empty) m.state.featureFlags).readings ∧
      (m.handle (.initial source objs)).2.events =
        (if m.resynchronizing then [⟨source, .resynchronized⟩] else []) ++
          (m.handle (.initial source objs)).2.readings.map
            fun r => ⟨source, .detected r.key r.displayValue⟩ := by
  have hfresh : m.state = { featureFlags := m.state.featureFlags } := hm.waiting hw
  have hc : CacheWF (objs.foldl EquipmentState.learn m.state.objects) := by
    rw [hfresh]
    exact cacheWF_empty.foldl_learn hobjs
  have hevents := events_apply m.state objs source hc
  rw [hfresh] at hevents
  simp only [handle]
  rw [hfresh, hevents, EquipmentState.readings_apply]
  exact ⟨rfl, by rw [filterMap_reportEvent_fresh]⟩

/-- **After a snapshot, a key first seen in a push or a poll is recorded without an event**: the
reading gives no event, every other event names another reading's key or none, and the
tracker now holds the reading's text. -/
theorem handle_new_key_silent {m : Minder} (hm : m.Inv) (hw : m.awaitingInitial = false)
    {u : Update} (hu : u.isPushOrPoll)
    (hc : CacheWF (u.objects.foldl EquipmentState.learn m.state.objects)) :
    ∀ r ∈ (m.handle u).2.readings, m.state.tracker.get? r.key = none →
      (∀ e ∈ (m.handle u).2.events, e.kind.key? ≠ some r.key) ∧
        (m.handle u).1.state.tracker.get? r.key = some r.displayValue := by
  have hdone := hm.settled hw
  -- the events of the application name keys of readings that give an event
  have happly : ∀ (source : Source) (r : Reading), m.state.tracker.get? r.key = none →
      ∀ e ∈ (m.state.apply u.objects source).2.events, e.kind.key? ≠ some r.key := by
    intro source r hr e he hkey
    rw [events_apply _ _ _ hc] at he
    obtain ⟨r', -, hr'⟩ := List.mem_filterMap.mp he
    have hsame : r'.key = r.key := Option.some.inj ((key?_reportEvent hr').symm.trans hkey)
    rw [reportEvent_of_new source hdone (hsame ▸ hr)] at hr'
    cases hr'
  cases u with
  | push objs =>
    simp only [handle, hw, Bool.false_eq_true, if_false]
    intro r hr hnew
    exact ⟨happly .push r hnew, tracker_apply_get? _ _ _ hc r hr⟩
  | pollCycle objs failed =>
    simp only [handle, hw, Bool.false_eq_true, if_false]
    intro r hr hnew
    refine ⟨fun e he => ?_, tracker_apply_get? _ _ _ hc r hr⟩
    rcases List.mem_append.mp he with he | he
    · exact happly .poll r hnew e he
    · -- the quiet-poll report names no key
      split at he
      · rw [List.mem_singleton.mp he]
        simp [EventKind.key?]
      · simp at he
  | _ => simp [Update.isPushOrPoll] at hu

end Minder

/-! ## Over any history -/

/-- **First sightings come from snapshots only.** After any updates from the start: no update
but a snapshot reports a first sighting; while no snapshot came since the start or the last
reset, a snapshot reports, after the rebuild report when one is owed, exactly one first
sighting from its source for each reading derived from its objects and the flags of the last
feature-flag update, in reading order, and nothing else; and once a snapshot came, a reading of
a push or a poll under a key the tracker has not seen gives no event and is recorded. -/
theorem detected_only_from_snapshots (us : List Update) (hus : Update.WellFormed us) :
    let m := ({} : Minder).run us
    (∀ u, u.isInitial = false → ∀ e ∈ (m.handle u).2.events, e.kind.isDetected = false) ∧
    (Minder.awaitingAfter us = true → ∀ source objs, (∀ o ∈ objs, o.WellFormed) →
      (m.handle (.initial source objs)).2.readings =
          (derive (objs.foldl EquipmentState.learn Dict.empty) (Minder.flagsAfter us)).readings ∧
        (m.handle (.initial source objs)).2.events =
          (if Minder.resyncAfter us then [⟨source, .resynchronized⟩] else []) ++
            (m.handle (.initial source objs)).2.readings.map
              fun r => ⟨source, .detected r.key r.displayValue⟩) ∧
    (Minder.awaitingAfter us = false → ∀ u, u.isPushOrPoll → (∀ o ∈ u.objects, o.WellFormed) →
      ∀ r ∈ (m.handle u).2.readings, m.state.tracker.get? r.key = none →
        (∀ e ∈ (m.handle u).2.events, e.kind.key? ≠ some r.key) ∧
          (m.handle u).1.state.tracker.get? r.key = some r.displayValue) := by
  intro m
  have hinv : m.Inv := Minder.inv_run us
  have hwait : m.awaitingInitial = Minder.awaitingAfter us := Minder.awaitingInitial_run us
  refine ⟨fun u hu => Minder.isDetected_handle hinv hu, fun hw source objs hobjs => ?_,
    fun hw u hu hobjs => ?_⟩
  · rw [← Minder.featureFlags_run us, ← Minder.resynchronizing_run us]
    exact Minder.handle_initial_of_waiting hinv (hwait.trans hw) source hobjs
  · exact Minder.handle_new_key_silent hinv (hwait.trans hw) hu
      ((Minder.cacheWF_run hus).foldl_learn hobjs)

/-- A snapshot, a reset, and a push dropped while the minder waits for the next snapshot. -/
theorem detected_only_from_snapshots_after_reset :
    let us := [Update.featureFlags (Dict.ofList [("FTR01", "fcsrtvhlw")]),
      .initial .poll [⟨"PMP01", ⟨[("OBJTYP", "PUMP"), ("RPM", "1800")]⟩⟩], .reset,
      .push [⟨"PMP01", ⟨[("RPM", "2400")]⟩⟩]]
    Update.WellFormed us ∧
      let m := ({} : Minder).run us
      (∀ u, u.isInitial = false → ∀ e ∈ (m.handle u).2.events, e.kind.isDetected = false) ∧
      (Minder.awaitingAfter us = true → ∀ source objs, (∀ o ∈ objs, o.WellFormed) →
        (m.handle (.initial source objs)).2.readings =
            (derive (objs.foldl EquipmentState.learn Dict.empty) (Minder.flagsAfter us)).readings ∧
          (m.handle (.initial source objs)).2.events =
            (if Minder.resyncAfter us then [⟨source, .resynchronized⟩] else []) ++
              (m.handle (.initial source objs)).2.readings.map
                fun r => ⟨source, .detected r.key r.displayValue⟩) ∧
      (Minder.awaitingAfter us = false → ∀ u, u.isPushOrPoll → (∀ o ∈ u.objects, o.WellFormed) →
        ∀ r ∈ (m.handle u).2.readings, m.state.tracker.get? r.key = none →
          (∀ e ∈ (m.handle u).2.events, e.kind.key? ≠ some r.key) ∧
            (m.handle u).1.state.tracker.get? r.key = some r.displayValue) :=
  ⟨by decide, detected_only_from_snapshots _ (by decide)⟩

end PoolMonitor.Equipment
