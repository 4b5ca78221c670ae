import Mathlib
import PoolMonitor.Proofs.ReadingKeys
/-!
# Applying the same update twice

An update is laid over the cache, every reading is derived again, and each reading is compared
with the text last reported under its key. Applying the same objects a second time right after
changes nothing and reports nothing. Three facts carry it:

* laying a list of objects over a cache twice is laying it once (`foldl_learn_idem`): every
  parameter already holds the last value the list writes to it;
* the derivation is a function of the cache and the feature flags;
* after a report every key holds the text of its reading (`report_known`), because no two
  readings share a key (`keysDistinct_derive`); so a second report of the same readings finds
  each one unchanged (`report_of_known`).

The state reached by applying a list is `Settled` for that list, marking the first snapshot
complete keeps it so, and applying the list to a settled state reports nothing
(`Settled.apply`).
-/

namespace PoolMonitor.Equipment

open PoolMonitor.Wire

/-! ## The tracker -/

namespace Tracker

theorem get?_observe (t : Tracker) (k v k' : String) :
    (t.observe k v).2.get? k' = if k' = k then some v else t.get? k' := by
  unfold observe get?
  split
  · split
    · -- the same text again: nothing is written
      rename_i prev hprev heq
      by_cases hk : k' = k
      · subst hk
        rw [if_pos rfl, hprev, beq_iff_eq.mp heq]
      · rw [if_neg hk]
    · exact Dict.get?_insert _ _ _ _
  · exact Dict.get?_insert _ _ _ _

/-- Observing the text a key already holds changes nothing. -/
theorem observe_of_get? {t : Tracker} {k v : String} (h : t.get? k = some v) :
    t.observe k v = (.unchanged, t) := by
  unfold observe
  unfold get? at h
  rw [h]
  simp

@[simp] theorem get?_markInitialDone (t : Tracker) (k : String) :
    t.markInitialDone.get? k = t.get? k := rfl

end Tracker

/-! ## Reporting readings -/

namespace EquipmentState

theorem report_fst (source : Source) (t : Tracker) (c : Nat) (evs : List Event) (r : Reading) :
    (report source (t, c, evs) r).1 = (t.observe r.key r.displayValue).2 := by
  unfold report
  simp only []
  cases t.observe r.key r.displayValue with
  | mk obs t' => cases obs <;> rfl

/-- Reports of other keys leave a key's text alone. -/
theorem get?_report_foldl_of_not_mem (source : Source) (rs : List Reading) (k : String)
    (hk : ∀ r ∈ rs, r.key ≠ k) (acc : Tracker × Nat × List Event) :
    (rs.foldl (report source) acc).1.get? k = acc.1.get? k := by
  induction rs generalizing acc with
  | nil => rfl
  | cons r rest ih =>
    obtain ⟨t, c, evs⟩ := acc
    rw [List.foldl_cons, ih (fun r' hr' => hk r' (List.mem_cons_of_mem _ hr')), report_fst,
      Tracker.get?_observe, if_neg (Ne.symm (hk r List.mem_cons_self))]

/-- **After a report every key holds its reading's text**, when no two readings share a key. -/
theorem report_known (source : Source) {rs : List Reading} (hrs : KeysDistinct rs)
    (acc : Tracker × Nat × List Event) :
    ∀ r ∈ rs, (rs.foldl (report source) acc).1.get? r.key = some r.displayValue := by
  induction rs generalizing acc with
  | nil => simp
  | cons r rest ih =>
    obtain ⟨hr, hrest⟩ := List.pairwise_cons.mp hrs
    intro r' hr'
    rw [List.foldl_cons]
    rcases List.mem_cons.mp hr' with rfl | hr'
    · -- the later readings have other keys, so the first one's text stays
      rw [get?_report_foldl_of_not_mem source rest r'.key (fun x hx => Ne.symm (hr x hx))]
      obtain ⟨t, c, evs⟩ := acc
      rw [report_fst, Tracker.get?_observe, if_pos rfl]
    · exact ih hrest _ r' hr'

/-- **Reporting readings whose texts are all known changes nothing.** -/
theorem report_of_known (source : Source) {rs : List Reading} {t : Tracker}
    (h : ∀ r ∈ rs, t.get? r.key = some r.displayValue) (c : Nat) (evs : List Event) :
    rs.foldl (report source) (t, c, evs) = (t, c, evs) := by
  induction rs with
  | nil => rfl
  | cons r rest ih =>
    have hobs := Tracker.observe_of_get? (h r List.mem_cons_self)
    have hstep : report source (t, c, evs) r = (t, c, evs) := by
      unfold report
      simp [hobs]
    rw [List.foldl_cons, hstep, ih (fun r' hr' => h r' (List.mem_cons_of_mem _ hr'))]

end EquipmentState

/-! ## The cache twice -/

/-- A parameter of the object laid down for a name reads the newer object first. -/
theorem get?_layer (known : Option ObjectData) {o : ObjectData} (ho : o.WellFormed) (p : String) :
    (layer known o).get? p = (o.get? p).or (known.bind (·.get? p)) := by
  cases known with
  | none => simp [layer]
  | some k => exact ObjectData.get?_merge k ho p

theorem bind_get?_foldl_layer (os : List ObjectData) (h : ∀ o ∈ os, o.WellFormed)
    (x : Option ObjectData) (p : String) :
    (os.foldl (fun acc o => some (layer acc o)) x).bind (·.get? p) =
      (lastValue os p).or (x.bind (·.get? p)) := by
  induction os generalizing x with
  | nil => rfl
  | cons o rest ih =>
    rw [List.foldl_cons, ih (fun o' ho' => h o' (List.mem_cons_of_mem _ ho')), Option.bind_some,
      get?_layer x (h o List.mem_cons_self)]
    simp [lastValue, List.reverse_cons, List.findSome?_append, Option.or_assoc]

theorem isSome_foldl_layer (os : List ObjectData) (x : Option ObjectData) :
    (os.foldl (fun acc o => some (layer acc o)) x).isSome = (!os.isEmpty || x.isSome) := by
  induction os generalizing x with
  | nil => simp
  | cons o rest ih => simp [ih]

/-- Two cache entries for one name are equal when both or neither exist and their parameters
read alike: in a reachable cache each is filed under its own name with a map of parameters. -/
theorem entry_ext {n : String} {a b : Option ObjectData}
    (ha : ∀ k ∈ a, k.objnam = n ∧ k.WellFormed) (hb : ∀ k ∈ b, k.objnam = n ∧ k.WellFormed)
    (hs : a.isSome = b.isSome) (hp : ∀ p, a.bind (·.get? p) = b.bind (·.get? p)) : a = b := by
  cases a with
  | none => cases b with
    | none => rfl
    | some _ => simp at hs
  | some k => cases b with
    | none => simp at hs
    | some k' =>
      obtain ⟨hn, hk⟩ := ha k rfl
      obtain ⟨hn', hk'⟩ := hb k' rfl
      rw [ObjectData.ext_of_wellFormed (hn.trans hn'.symm) hk hk' hp]

theorem CacheWF.entry {objects : Dict ObjectData} (h : CacheWF objects) (n : String) :
    ∀ k ∈ objects.get? n, k.objnam = n ∧ k.WellFormed :=
  fun _ hk => ⟨h.get?_objnam hk, h.get?_wellFormed hk⟩

/-- **Laying a list over a cache twice is laying it once.** Name by name: the list's objects
of that name are laid over the entry twice, and every parameter they write already holds the
last value written. -/
theorem foldl_learn_idem {objects : Dict ObjectData} (h : CacheWF objects) {os : List ObjectData}
    (hos : ∀ o ∈ os, o.WellFormed) :
    os.foldl EquipmentState.learn (os.foldl EquipmentState.learn objects) =
      os.foldl EquipmentState.learn objects := by
  have h₁ := h.foldl_learn hos
  have h₂ := h₁.foldl_learn hos
  apply Dict.Sorted.ext h₂.sorted h₁.sorted
  intro n
  have hn : ∀ o ∈ os.filter (·.objnam == n), o.WellFormed :=
    fun o ho => hos o (List.mem_filter.mp ho).1
  apply entry_ext (h₂.entry n) (h₁.entry n)
  · rw [get?_foldl_learn os (os.foldl EquipmentState.learn objects), isSome_foldl_layer,
      get?_foldl_learn, isSome_foldl_layer]
    cases (os.filter (·.objnam == n)).isEmpty <;> simp
  · intro p
    rw [get?_foldl_learn os (os.foldl EquipmentState.learn objects), bind_get?_foldl_layer _ hn,
      get?_foldl_learn, bind_get?_foldl_layer _ hn, ← Option.or_assoc, Option.or_self]

/-! ## Settled states -/

/-- The state after applying `objs`: its cache is reachable and already holds `objs`, and
every reading the next derivation gives has its text reported. -/
structure Settled (objs : List ObjectData) (s : EquipmentState) : Prop where
  cache : CacheWF s.objects
  absorbed : objs.foldl EquipmentState.learn s.objects = s.objects
  known : ∀ r ∈ (derive s.objects s.featureFlags).readings,
    s.tracker.get? r.key = some r.displayValue

/-- Applying a list of well-formed objects to a reachable cache settles the state for it. -/
theorem settled_apply {s : EquipmentState} (h : CacheWF s.objects) {objs : List ObjectData}
    (hobjs : ∀ o ∈ objs, o.WellFormed) (source : Source) : Settled objs (s.apply objs source).1 where
  cache := h.foldl_learn hobjs
  absorbed := foldl_learn_idem h hobjs
  known := EquipmentState.report_known source (keysDistinct_derive (h.foldl_learn hobjs) _) _

theorem Settled.markInitialDone {objs : List ObjectData} {s : EquipmentState}
    (h : Settled objs s) : Settled objs s.markInitialDone where
  cache := h.cache
  absorbed := h.absorbed
  known := h.known

/-- **Applying the settled list again reports nothing.** The cache stays, the same readings are
derived, each is found unchanged, and the count of changes is zero. -/
theorem Settled.apply {objs : List ObjectData} {s : EquipmentState} (h : Settled objs s)
    (source : Source) :
    s.apply objs source =
      ({ s with derived := derive s.objects s.featureFlags, changes := 0 },
        ⟨(derive s.objects s.featureFlags).readings, []⟩) := by
  unfold EquipmentState.apply
  simp only [h.absorbed, EquipmentState.report_of_known source h.known 0 []]
  rfl

end PoolMonitor.Equipment
