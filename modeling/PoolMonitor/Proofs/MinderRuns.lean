import Mathlib
import PoolMonitor.Equipment.Minder
import PoolMonitor.Proofs.Idempotence
/-!
# The minder over any sequence of updates

The minder holds two flags besides the equipment state: it waits for a full snapshot after a
start or a reset, and it owes a report that the state was rebuilt after a reset. This module
gives both flags as functions of the updates handled so far, and from them what each update
emits, whatever came before it:

* **`awaitingInitial_run`** — the minder waits exactly when no snapshot came since the last
  reset (or since the start);
* **`resynchronizing_run`** — it owes the rebuild report exactly when a reset came since the
  last snapshot (or since the start);
* **`minder_gating`** — updates are dropped while waiting, feature flags are taken silently,
  the rebuild report comes first in the snapshot that settles a reset, and a poll is reported
  as quiet exactly when it succeeded and changed nothing;
* **`apply_twice_reports_nothing`** — the same objects applied twice in a row report nothing
  the second time, and a clean poll that repeats the last update is reported as quiet.

The facts about one application come first: its events are first sightings and changes of its
own source, and the count of changes is the number of change events (`apply_events`).
-/

namespace PoolMonitor.Equipment

open PoolMonitor.Wire

/-! ## Events of one application -/

namespace EventKind

def isChanged : EventKind → Bool
  | .changed .. => true
  | _ => false

def isNoChanges : EventKind → Bool
  | .noChanges => true
  | _ => false

def isResynchronized : EventKind → Bool
  | .resynchronized => true
  | _ => false

/-- A first sighting or a change: what comparing readings reports. -/
def isObservation : EventKind → Bool
  | .detected .. | .changed .. => true
  | _ => false

end EventKind

namespace EquipmentState

/-- One report prepends at most one event, a first sighting or a change from its source, and
counts the changes. -/
theorem report_step (source : Source) (acc : Tracker × Nat × List Event) (r : Reading) :
    ∃ new, (report source acc r).2.2 = new ++ acc.2.2 ∧
      (report source acc r).2.1 = acc.2.1 + (new.filter (·.kind.isChanged)).length ∧
      ∀ e ∈ new, e.source = source ∧ e.kind.isObservation := by
  obtain ⟨t, c, evs⟩ := acc
  unfold report
  simp only []
  cases t.observe r.key r.displayValue with
  | mk obs t' =>
    cases obs with
    | detected =>
      exact ⟨[_], rfl, by simp [EventKind.isChanged], by simp [EventKind.isObservation]⟩
    | changed old =>
      exact ⟨[_], rfl, by simp [EventKind.isChanged], by simp [EventKind.isObservation]⟩
    | unchanged => exact ⟨[], rfl, rfl, by simp⟩
    | recorded => exact ⟨[], rfl, rfl, by simp⟩

/-- A report prepends first sightings and changes from its source, and counts the changes. -/
theorem report_foldl_events (source : Source) (rs : List Reading)
    (acc : Tracker × Nat × List Event) :
    ∃ new, (rs.foldl (report source) acc).2.2 = new ++ acc.2.2 ∧
      (rs.foldl (report source) acc).2.1 = acc.2.1 + (new.filter (·.kind.isChanged)).length ∧
      ∀ e ∈ new, e.source = source ∧ e.kind.isObservation := by
  induction rs generalizing acc with
  | nil => exact ⟨[], rfl, rfl, by simp⟩
  | cons r rest ih =>
    obtain ⟨new₁, he₁, hc₁, hs₁⟩ := report_step source acc r
    obtain ⟨new₂, he₂, hc₂, hs₂⟩ := ih (report source acc r)
    refine ⟨new₂ ++ new₁, ?_, ?_, ?_⟩
    · rw [List.foldl_cons, he₂, he₁, List.append_assoc]
    · rw [List.foldl_cons, hc₂, hc₁, List.filter_append, List.length_append]
      omega
    · intro e he
      rcases List.mem_append.mp he with he | he
      · exact hs₂ e he
      · exact hs₁ e he

/-- **The events of an application** are first sightings and changes from its source, and its
count of changes is the number of change events. -/
theorem apply_events (s : EquipmentState) (objs : List ObjectData) (source : Source) :
    (∀ e ∈ (s.apply objs source).2.events, e.source = source ∧ e.kind.isObservation) ∧
      (s.apply objs source).1.changes =
        ((s.apply objs source).2.events.filter (·.kind.isChanged)).length := by
  obtain ⟨new, he, hc, hs⟩ := report_foldl_events source
    (derive (objs.foldl learn s.objects) s.featureFlags).readings (s.tracker, 0, [])
  unfold EquipmentState.apply
  simp only [List.append_nil] at he
  simp only [he, hc, List.mem_reverse, List.filter_reverse, List.length_reverse, zero_add]
  exact ⟨hs, trivial⟩

end EquipmentState

/-! ## Updates and runs -/

namespace Update

def objects : Update → List ObjectData
  | .initial _ objects => objects
  | .pollCycle objects _ => objects
  | .push objects => objects
  | _ => []

def isReset : Update → Bool
  | .reset => true
  | _ => false

def isInitial : Update → Bool
  | .initial .. => true
  | _ => false

/-- Whether the update is a push or a poll, the updates dropped while waiting. -/
def isPushOrPoll : Update → Bool
  | .push _ | .pollCycle .. => true
  | _ => false

def isCleanPoll : Update → Bool
  | .pollCycle _ failed => !failed
  | _ => false

/-- Updates whose objects are all well formed. -/
def WellFormed (us : List Update) : Prop := ∀ u ∈ us, ∀ o ∈ u.objects, o.WellFormed

instance (us : List Update) : Decidable (WellFormed us) :=
  inferInstanceAs (Decidable (∀ u ∈ us, ∀ o ∈ u.objects, o.WellFormed))

end Update

namespace Minder

def run (m : Minder) (us : List Update) : Minder := us.foldl (fun m u => (m.handle u).1) m

theorem run_append_single (m : Minder) (us : List Update) (u : Update) :
    m.run (us ++ [u]) = ((m.run us).handle u).1 := by
  simp [run, List.foldl_append]

/-- No snapshot since the last reset, or since the start. -/
def awaitingAfter (us : List Update) : Bool := (sinceLast Update.isReset us).all (!·.isInitial)

/-- A reset since the last snapshot, or since the start. -/
def resyncAfter (us : List Update) : Bool := (sinceLast Update.isInitial us).any Update.isReset

theorem awaitingInitial_handle (m : Minder) (u : Update) :
    (m.handle u).1.awaitingInitial =
      if u.isReset then true else if u.isInitial then false else m.awaitingInitial := by
  cases u with
  | push objs =>
    show (m.handle (.push objs)).1.awaitingInitial = m.awaitingInitial
    simp only [handle]
    split <;> rfl
  | pollCycle objs failed =>
    show (m.handle (.pollCycle objs failed)).1.awaitingInitial = m.awaitingInitial
    simp only [handle]
    split <;> rfl
  | _ => rfl

theorem resynchronizing_handle (m : Minder) (u : Update) :
    (m.handle u).1.resynchronizing =
      if u.isReset then true else if u.isInitial then false else m.resynchronizing := by
  cases u with
  | push objs =>
    show (m.handle (.push objs)).1.resynchronizing = m.resynchronizing
    simp only [handle]
    split <;> rfl
  | pollCycle objs failed =>
    show (m.handle (.pollCycle objs failed)).1.resynchronizing = m.resynchronizing
    simp only [handle]
    split <;> rfl
  | _ => rfl

/-- **The minder waits exactly when no snapshot came since the last reset.** -/
theorem awaitingInitial_run (us : List Update) :
    (({} : Minder).run us).awaitingInitial = awaitingAfter us := by
  induction us using List.reverseRecOn with
  | nil => rfl
  | append_singleton us u ih =>
    rw [run_append_single, awaitingInitial_handle, ih, awaitingAfter, awaitingAfter,
      sinceLast_append_single]
    -- a reset starts the history afresh; otherwise the update joins it
    cases hr : u.isReset
    · cases hi : u.isInitial <;> simp [hi]
    · rfl

/-- **The minder owes the rebuild report exactly when a reset came since the last snapshot.** -/
theorem resynchronizing_run (us : List Update) :
    (({} : Minder).run us).resynchronizing = resyncAfter us := by
  induction us using List.reverseRecOn with
  | nil => rfl
  | append_singleton us u ih =>
    rw [run_append_single, resynchronizing_handle, ih, resyncAfter, resyncAfter,
      sinceLast_append_single]
    cases hi : u.isInitial
    · cases hr : u.isReset <;> simp [hr]
    · -- a snapshot is never a reset
      have hr : u.isReset = false := by cases u <;> simp_all [Update.isInitial, Update.isReset]
      simp [hr]

/-! ## What one update emits -/

/-- While the minder waits, a push or a poll is dropped whole. -/
theorem handle_of_awaiting {m : Minder} (hm : m.awaitingInitial = true) {u : Update}
    (hu : u.isPushOrPoll) : m.handle u = (m, ⟨[], []⟩) := by
  cases u with
  | push objs => simp only [handle, hm, if_true]
  | pollCycle objs failed => simp only [handle, hm, if_true]
  | _ => simp [Update.isPushOrPoll] at hu

/-- An application's events are neither rebuild reports nor quiet-poll reports. -/
theorem filter_observations {evs : List Event} (h : ∀ e ∈ evs, e.kind.isObservation) :
    evs.filter (·.kind.isResynchronized) = [] ∧ evs.filter (·.kind.isNoChanges) = [] := by
  have hk : ∀ e ∈ evs, e.kind.isResynchronized = false ∧ e.kind.isNoChanges = false := by
    intro e he
    have hobs := h e he
    cases hk : e.kind <;> simp_all [EventKind.isObservation, EventKind.isResynchronized,
      EventKind.isNoChanges]
  exact ⟨List.filter_eq_nil_iff.mpr fun e he => by simp [(hk e he).1],
    List.filter_eq_nil_iff.mpr fun e he => by simp [(hk e he).2]⟩

/-- A snapshot reports the rebuild first, when one is owed, and never otherwise. -/
theorem resynchronized_handle_initial (m : Minder) (source : Source) (objs : List ObjectData) :
    (m.handle (.initial source objs)).2.events.filter (·.kind.isResynchronized) =
        (if m.resynchronizing then [⟨source, .resynchronized⟩] else []) ∧
      (m.resynchronizing → (m.handle (.initial source objs)).2.events.head? =
        some ⟨source, .resynchronized⟩) := by
  have hobs := filter_observations fun e he => ((m.state.apply_events objs source).1 e he).2
  simp only [handle]
  generalize m.state.apply objs source = r at hobs
  obtain ⟨state, applied⟩ := r
  simp only [List.filter_append, hobs.1, List.append_nil]
  cases m.resynchronizing <;> simp [EventKind.isResynchronized]

/-- Only a snapshot reports a rebuild. -/
theorem resynchronized_handle_of_not_initial (m : Minder) {u : Update} (hu : u.isInitial = false) :
    (m.handle u).2.events.filter (·.kind.isResynchronized) = [] := by
  cases u with
  | featureFlags flags => rfl
  | reset => rfl
  | initial source objs => simp [Update.isInitial] at hu
  | push objs =>
    have hobs := filter_observations fun e he => ((m.state.apply_events objs .push).1 e he).2
    simp only [handle]
    split
    · rfl
    · exact hobs.1
  | pollCycle objs failed =>
    have hobs := filter_observations fun e he => ((m.state.apply_events objs .poll).1 e he).2
    simp only [handle]
    split
    · rfl
    · generalize m.state.apply objs .poll = r at hobs
      obtain ⟨state, applied⟩ := r
      simp only [List.filter_append, hobs.1, List.nil_append]
      split <;> rfl

/-- **A poll is reported as quiet exactly when it succeeded, was not dropped, and changed
nothing**; the report then comes once, from the poll. -/
theorem noChanges_handle (m : Minder) (u : Update) :
    (m.handle u).2.events.filter (·.kind.isNoChanges) =
      if u.isCleanPoll && !m.awaitingInitial &&
          ((m.handle u).2.events.filter (·.kind.isChanged)).isEmpty
      then [⟨.poll, .noChanges⟩] else [] := by
  cases u with
  | featureFlags flags => rfl
  | reset => rfl
  | initial source objs =>
    have hobs := filter_observations fun e he => ((m.state.apply_events objs source).1 e he).2
    simp only [handle, Update.isCleanPoll, Bool.false_and, Bool.false_eq_true, if_false]
    generalize m.state.apply objs source = r at hobs
    obtain ⟨state, applied⟩ := r
    simp only [List.filter_append, hobs.2, List.append_nil]
    cases m.resynchronizing <;> simp [EventKind.isNoChanges]
  | push objs =>
    have hobs := filter_observations fun e he => ((m.state.apply_events objs .push).1 e he).2
    simp only [handle, Update.isCleanPoll, Bool.false_and, Bool.false_eq_true, if_false]
    split
    · rfl
    · exact hobs.2
  | pollCycle objs failed =>
    obtain ⟨hobs, hchanges⟩ := m.state.apply_events objs .poll
    simp only [handle]
    split
    · -- dropped while waiting: nothing at all is reported
      next hm => simp [hm]
    · next hm =>
      generalize m.state.apply objs .poll = r at hobs hchanges
      obtain ⟨state, applied⟩ := r
      simp only at hobs hchanges ⊢
      -- the quiet report is the only event besides the application's own
      rw [List.filter_append, List.filter_append, (filter_observations fun e he => (hobs e he).2).2,
        List.nil_append,
        hchanges]
      cases failed <;>
        cases hc : (applied.events.filter (·.kind.isChanged)).isEmpty <;>
        simp_all [Update.isCleanPoll, EventKind.isNoChanges, EventKind.isChanged,
          List.isEmpty_iff, List.length_eq_zero_iff]

/-! ## The gating over any history -/

/-- **Updates are gated by the history alone.** After any updates from the start: the minder
waits exactly when no snapshot came since the last reset, and owes the rebuild report exactly
when a reset came since the last snapshot; a push or a poll while waiting changes nothing and
emits nothing; feature flags are replaced silently; the rebuild report is emitted once, first,
from the snapshot that settles a reset, and by nothing else; and the quiet-poll report is
emitted once, from the poll, exactly for a successful poll handled while not waiting that
reports no change. -/
theorem minder_gating (us : List Update) (u : Update) :
    let m := ({} : Minder).run us
    let r := m.handle u
    m.awaitingInitial = awaitingAfter us ∧
    m.resynchronizing = resyncAfter us ∧
    (u.isPushOrPoll → awaitingAfter us → r.1 = m ∧ r.2.readings = [] ∧ r.2.events = []) ∧
    (∀ flags, u = .featureFlags flags →
      r.1 = { m with state := m.state.setFeatureFlags flags } ∧ r.2.readings = [] ∧
        r.2.events = []) ∧
    (∀ source objs, u = .initial source objs →
      r.2.events.filter (·.kind.isResynchronized) =
          (if resyncAfter us then [⟨source, .resynchronized⟩] else []) ∧
        (resyncAfter us → r.2.events.head? = some ⟨source, .resynchronized⟩)) ∧
    (u.isInitial = false → r.2.events.filter (·.kind.isResynchronized) = []) ∧
    r.2.events.filter (·.kind.isNoChanges) =
      if u.isCleanPoll && !awaitingAfter us && (r.2.events.filter (·.kind.isChanged)).isEmpty
      then [⟨.poll, .noChanges⟩] else [] := by
  intro m r
  have hwait : m.awaitingInitial = awaitingAfter us := awaitingInitial_run us
  have hresync : m.resynchronizing = resyncAfter us := resynchronizing_run us
  refine ⟨hwait, hresync, fun hu hw => ?_, fun flags hu => ?_, fun source objs hu => ?_,
    resynchronized_handle_of_not_initial m, ?_⟩
  · rw [show r = (m, ⟨[], []⟩) from handle_of_awaiting (hwait ▸ hw) hu]
    exact ⟨rfl, rfl, rfl⟩
  · subst hu
    exact ⟨rfl, rfl, rfl⟩
  · subst hu
    rw [← hresync]
    exact resynchronized_handle_initial m source objs
  · rw [← hwait]
    exact noChanges_handle m u

/-! ## The same objects twice -/

/-- The cache after one update: a reset empties it, a dropped update leaves it, and anything
else lays the update's objects over it. -/
theorem objects_handle (m : Minder) (u : Update) :
    (m.handle u).1.state.objects =
      if u.isReset then Dict.empty
      else if u.isPushOrPoll && m.awaitingInitial then m.state.objects
      else u.objects.foldl EquipmentState.learn m.state.objects := by
  cases u with
  | push objs =>
    show _ = if m.awaitingInitial then _ else _
    simp only [handle]
    split <;> rfl
  | pollCycle objs failed =>
    show _ = if m.awaitingInitial then _ else _
    simp only [handle]
    split <;> rfl
  | _ => rfl

theorem cacheWF_run {us : List Update} (h : Update.WellFormed us) :
    CacheWF (({} : Minder).run us).state.objects := by
  induction us using List.reverseRecOn with
  | nil => exact cacheWF_empty
  | append_singleton us u ih =>
    have hus : Update.WellFormed us := fun u' hu' => h u' (List.mem_append_left _ hu')
    rw [run_append_single, objects_handle]
    split
    · exact cacheWF_empty
    · split
      · -- a dropped update leaves the cache as it was
        exact ih hus
      · exact (ih hus).foldl_learn (h u (List.mem_append_right _ List.mem_cons_self))

/-- After a push, a poll or a snapshot of `objs` that was not dropped, the state is settled
for `objs`. -/
theorem settled_handle {m : Minder} (h : CacheWF m.state.objects) {objs : List ObjectData}
    (hobjs : ∀ o ∈ objs, o.WellFormed) {u : Update}
    (hu : u = .push objs ∨ (∃ failed, u = .pollCycle objs failed) ∨ ∃ source, u = .initial source objs)
    (hwait : (m.handle u).1.awaitingInitial = false) : Settled objs (m.handle u).1.state := by
  rcases hu with rfl | ⟨failed, rfl⟩ | ⟨source, rfl⟩
  · -- a push that was not dropped came while not waiting
    have hm : m.awaitingInitial = false := by
      rw [awaitingInitial_handle] at hwait
      simpa [Update.isReset, Update.isInitial] using hwait
    simp only [handle, hm, Bool.false_eq_true, if_false]
    exact settled_apply h hobjs .push
  · -- likewise a poll
    have hm : m.awaitingInitial = false := by
      rw [awaitingInitial_handle] at hwait
      simpa [Update.isReset, Update.isInitial] using hwait
    simp only [handle, hm, Bool.false_eq_true, if_false]
    exact settled_apply h hobjs .poll
  · exact (settled_apply h hobjs source).markInitialDone

/-- A successful poll of the objects the state is settled for is reported as quiet, and as
nothing else. -/
theorem handle_clean_poll_of_settled {m : Minder} {objs : List ObjectData}
    (h : Settled objs m.state) (hwait : m.awaitingInitial = false) :
    (m.handle (.pollCycle objs false)).2.events = [⟨.poll, .noChanges⟩] := by
  simp only [handle, hwait, Bool.false_eq_true, if_false, h.apply]
  rfl

end Minder

/-- **Applying the same objects twice in a row reports nothing the second time.** From any
state reached by operations, the second application of a list (names may repeat) emits no
event, counts no change and gives the readings of the first. So at the minder, a successful
poll of the objects of the push, poll or snapshot just handled is reported only as quiet. -/
theorem apply_twice_reports_nothing (objs : List ObjectData) (hobjs : ∀ o ∈ objs, o.WellFormed) :
    (∀ ops : List Op, Op.WellFormed ops → ∀ source₁ source₂ : Source,
      let first := (({} : EquipmentState).run ops).apply objs source₁
      let second := first.1.apply objs source₂
      second.2.events = [] ∧ second.1.changes = 0 ∧ second.2.readings = first.2.readings) ∧
    (∀ us : List Update, Update.WellFormed us → ∀ u : Update,
      (u = .push objs ∨ (∃ failed, u = .pollCycle objs failed) ∨ ∃ source, u = .initial source objs) →
      let m := ((({} : Minder).run us).handle u).1
      m.awaitingInitial = false → (m.handle (.pollCycle objs false)).2.events = [⟨.poll, .noChanges⟩]) := by
  refine ⟨fun ops hops source₁ source₂ => ?_, fun us hus u hu hwait => ?_⟩
  · intro first second
    have hs : Settled objs first.1 :=
      settled_apply (EquipmentState.cacheWF_run hops) hobjs source₁
    rw [show second = _ from hs.apply source₂]
    exact ⟨rfl, rfl, rfl⟩
  · exact Minder.handle_clean_poll_of_settled
      (Minder.settled_handle (Minder.cacheWF_run hus) hobjs hu hwait) hwait

/-- A pump read twice by poll, after a snapshot: the second poll is quiet. -/
theorem apply_twice_reports_nothing_pump :
    let objs := [(⟨"PMP01", ⟨[("OBJTYP", "PUMP"), ("RPM", "1800")]⟩⟩ : ObjectData)]
    (∀ o ∈ objs, o.WellFormed) ∧
    (∀ ops : List Op, Op.WellFormed ops → ∀ source₁ source₂ : Source,
      let first := (({} : EquipmentState).run ops).apply objs source₁
      let second := first.1.apply objs source₂
      second.2.events = [] ∧ second.1.changes = 0 ∧ second.2.readings = first.2.readings) ∧
    (∀ us : List Update, Update.WellFormed us → ∀ u : Update,
      (u = .push objs ∨ (∃ failed, u = .pollCycle objs failed) ∨ ∃ source, u = .initial source objs) →
      let m := ((({} : Minder).run us).handle u).1
      m.awaitingInitial = false → (m.handle (.pollCycle objs false)).2.events = [⟨.poll, .noChanges⟩]) :=
  ⟨by decide, apply_twice_reports_nothing _ (by decide)⟩

end PoolMonitor.Equipment
