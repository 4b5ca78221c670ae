import Mathlib
import PoolMonitor.Proofs.FirstSightings
/-!
# The tracker against the history of its calls

A tracker answers from a dictionary it rewrites as it goes. This module says what it answers
from the calls made to it alone. Reading the calls since the last reset:

* the value under a key is the one most recently observed under it (`lastObserved`);
* the first snapshot is complete when it was marked so (`markedDone`);
* the keys are those observed (`observedKeys`).

Observing a value then reports a first sighting for a key with no value (detected before the
snapshot is marked complete, recorded after), nothing for the key's last value, and a change
from the last value otherwise (`expected`).

The proof is an invariant of replays. `Matches` ties a tracker to a history: sorted keys, the
history's last values and its completion mark. A new tracker matches the empty history, every
call keeps the match (`Matches.perform`), and so every replay matches its history
(`matches_replay`), from which `tracker_follows_history` reads each answer.
-/

namespace PoolMonitor.Equipment.Tracker

/-- A call on a tracker: the three that change it, and a lookup. -/
inductive Call where
  | observe (key value : String)
  | markInitialDone
  | reset
  | get (key : String)
  deriving DecidableEq, Repr

namespace Call

def isReset : Call → Bool
  | .reset => true
  | _ => false

/-- The key and the value a call observes, if it observes one. -/
def observed? : Call → Option (String × String)
  | .observe k v => some (k, v)
  | _ => none

end Call

/-- The tracker after one call. -/
def perform (t : Tracker) : Call → Tracker
  | .observe k v => (t.observe k v).2
  | .markInitialDone => t.markInitialDone
  | .reset => t.reset
  | .get _ => t

/-- The tracker after a sequence of calls on a new one. -/
def replay (calls : List Call) : Tracker := calls.foldl perform {}

theorem replay_append_single (calls : List Call) (c : Call) :
    replay (calls ++ [c]) = (replay calls).perform c := by
  simp [replay, List.foldl_append]

/-! ## The history since the last reset -/

/-- The observations made since the last reset, in order. -/
def observations (calls : List Call) : List (String × String) :=
  (sinceLast Call.isReset calls).filterMap Call.observed?

/-- The value most recently observed under `k` since the last reset. -/
def lastObserved (calls : List Call) (k : String) : Option String :=
  (((observations calls).filter (·.1 == k)).getLast?).map (·.2)

/-- Whether the first snapshot was marked complete since the last reset. -/
def markedDone (calls : List Call) : Bool :=
  (sinceLast Call.isReset calls).contains .markInitialDone

/-- The keys observed since the last reset. -/
def observedKeys (calls : List Call) : Finset String :=
  ((observations calls).map (·.1)).toFinset

/-- What observing `v` reports, given the key's last value and whether the first snapshot is
complete. -/
def expected (last : Option String) (done : Bool) (v : String) : Observation :=
  match last with
  | none => if done then .recorded else .detected
  | some old => if old = v then .unchanged else .changed old

theorem observations_append_single (calls : List Call) (c : Call) :
    observations (calls ++ [c]) =
      if c.isReset then [] else observations calls ++ c.observed?.toList := by
  unfold observations
  rw [sinceLast_append_single]
  split
  · rfl
  · cases h : c.observed? <;> simp [h]

/-- One more call: an observation gives its key its value, a reset forgets every value, and the
other calls change nothing. -/
theorem lastObserved_append_single (calls : List Call) (c : Call) (k : String) :
    lastObserved (calls ++ [c]) k =
      match c with
      | .observe k' v => if k = k' then some v else lastObserved calls k
      | .reset => none
      | _ => lastObserved calls k := by
  unfold lastObserved
  rw [observations_append_single]
  cases c with
  | observe k' v =>
    by_cases hk : k = k'
    · subst hk
      simp [Call.isReset, Call.observed?, List.filter_append]
    · simp [Call.isReset, Call.observed?, List.filter_append, Ne.symm hk, hk]
  | reset => rfl
  | markInitialDone => simp [Call.isReset, Call.observed?]
  | get k' => simp [Call.isReset, Call.observed?]

theorem markedDone_append_single (calls : List Call) (c : Call) :
    markedDone (calls ++ [c]) =
      match c with
      | .markInitialDone => true
      | .reset => false
      | _ => markedDone calls := by
  unfold markedDone
  rw [sinceLast_append_single]
  cases c <;> simp [Call.isReset]

/-- A key is observed since the last reset exactly when it has a last value. -/
theorem mem_observedKeys (calls : List Call) (k : String) :
    k ∈ observedKeys calls ↔ (lastObserved calls k).isSome := by
  rw [observedKeys, lastObserved, List.mem_toFinset, Option.isSome_map, List.getLast?_isSome]
  simp [List.filter_eq_nil_iff]

/-! ## One call on a tracker -/

/-- What an observation reports depends on the key's value and the completion mark only. -/
theorem observe_fst (t : Tracker) (k v : String) :
    (t.observe k v).1 = expected (t.get? k) t.initialDone v := by
  cases h : t.get? k with
  | none =>
    rw [observe_of_get?_none h]
    cases t.initialDone <;> rfl
  | some prev =>
    rw [observe_of_get?_some h]
    by_cases hv : prev = v
    · simp [expected, hv]
    · simp [expected, hv]

/-- An observation writes the key's value or leaves the dictionary as it was. -/
theorem values_observe (t : Tracker) (k v : String) :
    (t.observe k v).2.values = t.values ∨ (t.observe k v).2.values = t.values.insert k v := by
  unfold observe
  split
  · split
    · exact Or.inl rfl
    · exact Or.inr rfl
  · exact Or.inr rfl

/-! ## Replays match their histories -/

/-- A tracker holds what a history says: keys in order, each key's last value, and the
completion mark. -/
structure Matches (calls : List Call) (t : Tracker) : Prop where
  sorted : t.values.Sorted
  get? : ∀ k, t.get? k = lastObserved calls k
  done : t.initialDone = markedDone calls

theorem matches_nil : Matches [] {} :=
  ⟨Dict.sorted_empty, fun _ => rfl, rfl⟩

/-- **Every call keeps a tracker and its history together.** -/
theorem Matches.perform {calls : List Call} {t : Tracker} (h : Matches calls t) (c : Call) :
    Matches (calls ++ [c]) (t.perform c) := by
  cases c with
  | observe k v =>
    refine ⟨?_, fun k' => ?_, ?_⟩
    · rcases values_observe t k v with hv | hv
      · exact hv ▸ h.sorted
      · exact hv ▸ h.sorted.insert k v
    · rw [Tracker.perform, get?_observe, lastObserved_append_single, h.get? k']
    · rw [Tracker.perform, initialDone_observe, markedDone_append_single, h.done]
  | markInitialDone =>
    exact ⟨h.sorted, fun k' => by rw [lastObserved_append_single, ← h.get? k']; rfl,
      by rw [markedDone_append_single]; rfl⟩
  | reset =>
    exact ⟨Dict.sorted_empty, fun k' => by rw [lastObserved_append_single]; rfl,
      by rw [markedDone_append_single]; rfl⟩
  | get k =>
    exact ⟨h.sorted, fun k' => by rw [lastObserved_append_single, ← h.get? k']; rfl,
      by rw [markedDone_append_single, ← h.done]; rfl⟩

/-- Induction on the calls from the last one. -/
theorem matches_replay (calls : List Call) : Matches calls (replay calls) := by
  induction calls using List.reverseRecOn with
  | nil => exact matches_nil
  | append_singleton calls c ih =>
    rw [replay_append_single]
    exact ih.perform c

/-- The size counts the keys of the history: a sorted dictionary has each of its keys once, and
its keys are those with a value. -/
theorem Matches.size {calls : List Call} {t : Tracker} (h : Matches calls t) :
    t.size = (observedKeys calls).card := by
  have hkeys : (t.values.toList.map (·.1)).toFinset = observedKeys calls := by
    ext k
    rw [mem_observedKeys, ← h.get? k, Tracker.get?, ← Dict.contains_iff_get?_isSome,
      List.mem_toFinset]
    constructor
    · exact Dict.contains_of_mem_keys
    · intro hc
      obtain ⟨e, he, hek⟩ := List.any_eq_true.mp hc
      exact List.mem_map.mpr ⟨e, he, beq_iff_eq.mp hek⟩
  rw [← hkeys, List.toFinset_card_of_nodup h.sorted.keys_nodup, List.length_map]
  rfl

/-- **The tracker answers as the history of its calls says.** After any sequence of calls on a
new tracker: observing `v` under `k` reports what `k`'s last value since the last reset and the
completion mark since then call for; a lookup gives that last value; the size is the number of
keys observed since the last reset; and the completion mark is whether the first snapshot was
marked complete since then. -/
theorem tracker_follows_history (calls : List Call) :
    (∀ k v, ((replay calls).observe k v).1 =
      expected (lastObserved calls k) (markedDone calls) v) ∧
    (∀ k, (replay calls).get? k = lastObserved calls k) ∧
    (replay calls).size = (observedKeys calls).card ∧
    (replay calls).initialDone = markedDone calls := by
  have h := matches_replay calls
  refine ⟨fun k v => ?_, h.get?, h.size, h.done⟩
  rw [observe_fst, h.get? k, h.done]

/-- A key seen before the first snapshot is complete, seen again with its value, then changed. -/
example :
    let calls := [Call.observe "pump_speed:PMP01" "1800", .observe "pump_speed:PMP01" "1800",
      .markInitialDone]
    ((replay calls).observe "pump_speed:PMP01" "2400").1 = .changed "1800" ∧
      lastObserved calls "pump_speed:PMP01" = some "1800" :=
  ⟨rfl, rfl⟩

end PoolMonitor.Equipment.Tracker
