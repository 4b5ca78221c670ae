import Mathlib
import PoolMonitor.Equipment.State
import PoolMonitor.Proofs.DictLaws
/-!
# The object cache

The equipment state keeps the last known view of every object, by object name. An update lays
each object over the known one of its name (`ObjectData.merge`: the update's parameters win)
or adds it. This module states what the cache holds after any sequence of operations:

* **`object?_run`** — the object of a name is the first object of that name applied since the
  last reset, with every later one merged in, in order (`mergeAll`);
* **`get?_object?_run`** — so each parameter has the value of the last of those objects that
  carries it: the cache is a last-writer-wins overlay;
* a name no applied object carries has no object, and an update never drops one.

It also gives the invariant every reachable cache keeps (`CacheWF`): keys in order, each
object filed under its own name, each object's parameters a map.

Objects are taken with their parameters in the form a decoded map has (`ObjectData.WellFormed`:
keys strictly increasing, so one value per key).
-/

namespace PoolMonitor.Wire.ObjectData

/-- The parameters form a map: their keys strictly increase, one value per key. -/
def WellFormed (o : ObjectData) : Prop := o.params.Sorted

instance (o : ObjectData) : Decidable o.WellFormed := inferInstanceAs (Decidable o.params.Sorted)

@[simp] theorem objnam_merge (o other : ObjectData) : (o.merge other).objnam = o.objnam := rfl

theorem WellFormed.merge {o : ObjectData} (h : o.WellFormed) (other : ObjectData) :
    (o.merge other).WellFormed :=
  Dict.Sorted.overlay h other.params

/-- **Merging reads the newer object first.** -/
theorem get?_merge (o : ObjectData) {other : ObjectData} (h : other.WellFormed) (p : String) :
    (o.merge other).get? p = (other.get? p).or (o.get? p) :=
  Dict.get?_overlay o.params h p

/-- Objects with one name and well-formed parameters are equal when their parameters read
alike. -/
theorem ext_of_wellFormed {o₁ o₂ : ObjectData} (hn : o₁.objnam = o₂.objnam)
    (h₁ : o₁.WellFormed) (h₂ : o₂.WellFormed) (h : ∀ p, o₁.get? p = o₂.get? p) : o₁ = o₂ := by
  obtain ⟨n₁, ps₁⟩ := o₁
  obtain ⟨n₂, ps₂⟩ := o₂
  have hps : ps₁ = ps₂ := Dict.Sorted.ext h₁ h₂ h
  simp only at hn
  rw [hn, hps]

end PoolMonitor.Wire.ObjectData

namespace PoolMonitor.Equipment

open PoolMonitor.Wire

/-! ## Laying objects over the cache -/

/-- The object a cache entry becomes when `o` arrives: `o` merged into the known object, or
`o` itself when none is known. -/
def layer (known : Option ObjectData) (o : ObjectData) : ObjectData :=
  match known with
  | some k => k.merge o
  | none => o

/-- All objects of a list laid over each other in order: the first, with every later one
merged in. Nothing when the list is empty. -/
def mergeAll : List ObjectData → Option ObjectData
  | [] => none
  | o :: rest => some (rest.foldl ObjectData.merge o)

/-- The last value of parameter `p` among `os`. -/
def lastValue (os : List ObjectData) (p : String) : Option String :=
  os.reverse.findSome? (·.get? p)

theorem learn_eq (objects : Dict ObjectData) (o : ObjectData) :
    EquipmentState.learn objects o = objects.insert o.objnam (layer (objects.get? o.objnam) o) := by
  unfold EquipmentState.learn layer
  split <;> simp_all

theorem get?_learn (objects : Dict ObjectData) (o : ObjectData) (n : String) :
    (EquipmentState.learn objects o).get? n =
      if n = o.objnam then some (layer (objects.get? n) o) else objects.get? n := by
  rw [learn_eq, Dict.get?_insert]
  by_cases h : n = o.objnam
  · subst h; rfl
  · rw [if_neg h, if_neg h]

/-- Laying a list over the cache, as seen from one name: only the objects of that name count,
each laid over the last. -/
theorem get?_foldl_learn (os : List ObjectData) (objects : Dict ObjectData) (n : String) :
    (os.foldl EquipmentState.learn objects).get? n =
      (os.filter (·.objnam == n)).foldl (fun acc o => some (layer acc o)) (objects.get? n) := by
  induction os generalizing objects with
  | nil => rfl
  | cons o rest ih =>
    rw [List.foldl_cons, ih, get?_learn, List.filter_cons]
    by_cases h : n = o.objnam
    · subst h; simp
    · -- an object of another name leaves this entry alone
      have : (o.objnam == n) = false := by simpa using Ne.symm h
      rw [if_neg h, this]
      rfl

theorem foldl_layer_some (os : List ObjectData) (k : ObjectData) :
    os.foldl (fun acc o => some (layer acc o)) (some k) = some (os.foldl ObjectData.merge k) := by
  induction os generalizing k with
  | nil => rfl
  | cons o rest ih => exact ih (k.merge o)

theorem mergeAll_eq_foldl (os : List ObjectData) :
    mergeAll os = os.foldl (fun acc o => some (layer acc o)) none := by
  cases os with
  | nil => rfl
  | cons o rest => rw [List.foldl_cons, layer, foldl_layer_some]; rfl

theorem mergeAll_append (as bs : List ObjectData) :
    mergeAll (as ++ bs) = bs.foldl (fun acc o => some (layer acc o)) (mergeAll as) := by
  rw [mergeAll_eq_foldl, mergeAll_eq_foldl, List.foldl_append]

@[simp] theorem mergeAll_eq_none_iff (os : List ObjectData) : mergeAll os = none ↔ os = [] := by
  cases os <;> simp [mergeAll]

theorem objnam_layer {known : Option ObjectData} {o : ObjectData}
    (h : ∀ k ∈ known, k.objnam = o.objnam) : (layer known o).objnam = o.objnam := by
  cases known with
  | none => rfl
  | some k => exact h k rfl

theorem WellFormed.layer {known : Option ObjectData} {o : ObjectData}
    (hk : ∀ k ∈ known, k.WellFormed) (ho : o.WellFormed) : (layer known o).WellFormed := by
  cases known with
  | none => exact ho
  | some k => exact (hk k rfl).merge o

/-- **Each parameter of a merged object is the last one written.** -/
theorem get?_foldl_merge (base : ObjectData) (os : List ObjectData)
    (h : ∀ o ∈ os, o.WellFormed) (p : String) :
    (os.foldl ObjectData.merge base).get? p = (lastValue os p).or (base.get? p) := by
  induction os generalizing base with
  | nil => rfl
  | cons o rest ih =>
    rw [List.foldl_cons, ih _ (fun o' ho' => h o' (List.mem_cons_of_mem _ ho')),
      ObjectData.get?_merge _ (h o List.mem_cons_self)]
    simp [lastValue, List.reverse_cons, List.findSome?_append, Option.or_assoc]

theorem get?_mergeAll (os : List ObjectData) (h : ∀ o ∈ os, o.WellFormed) (p : String) :
    (mergeAll os).bind (·.get? p) = lastValue os p := by
  cases os with
  | nil => rfl
  | cons o rest =>
    rw [mergeAll, Option.bind_some,
      get?_foldl_merge o rest (fun o' ho' => h o' (List.mem_cons_of_mem _ ho'))]
    simp [lastValue, List.reverse_cons, List.findSome?_append]

/-! ## The invariant of a reachable cache -/

/-- What every reachable cache satisfies: names in increasing order, every object filed under
its own name, and every object's parameters a map. -/
structure CacheWF (objects : Dict ObjectData) : Prop where
  sorted : objects.Sorted
  named : ∀ e ∈ objects.toList, e.2.objnam = e.1
  wellFormed : ∀ e ∈ objects.toList, e.2.WellFormed

theorem cacheWF_empty : CacheWF Dict.empty := ⟨Dict.sorted_empty, by simp, by simp⟩

theorem CacheWF.get?_objnam {objects : Dict ObjectData} (h : CacheWF objects) {n : String}
    {o : ObjectData} (ho : objects.get? n = some o) : o.objnam = n :=
  h.named _ (Dict.mem_of_get?_eq_some ho)

theorem CacheWF.get?_wellFormed {objects : Dict ObjectData} (h : CacheWF objects) {n : String}
    {o : ObjectData} (ho : objects.get? n = some o) : o.WellFormed :=
  h.wellFormed _ (Dict.mem_of_get?_eq_some ho)

theorem CacheWF.learn {objects : Dict ObjectData} (h : CacheWF objects) {o : ObjectData}
    (ho : o.WellFormed) : CacheWF (EquipmentState.learn objects o) := by
  rw [learn_eq]
  -- the one new entry is the laid object, filed under the name of `o`
  refine ⟨h.sorted.insert _ _, fun e he => ?_, fun e he => ?_⟩
  · rcases Dict.mem_insertEntry he with rfl | he
    · exact objnam_layer fun k hk => h.get?_objnam hk
    · exact h.named e he
  · rcases Dict.mem_insertEntry he with rfl | he
    · exact WellFormed.layer (fun k hk => h.get?_wellFormed hk) ho
    · exact h.wellFormed e he

theorem CacheWF.foldl_learn {objects : Dict ObjectData} (h : CacheWF objects)
    {os : List ObjectData} (hos : ∀ o ∈ os, o.WellFormed) :
    CacheWF (os.foldl EquipmentState.learn objects) := by
  induction os generalizing objects with
  | nil => exact h
  | cons o rest ih =>
    exact ih (h.learn (hos o List.mem_cons_self)) fun o' ho' => hos o' (List.mem_cons_of_mem _ ho')

/-! ## Operations and runs -/

/-- The elements after the last one that satisfies `p`; all of them if none does. -/
def sinceLast {α : Type} (p : α → Bool) (l : List α) : List α :=
  (l.reverse.takeWhile (fun a => !p a)).reverse

theorem sinceLast_append_single {α : Type} (p : α → Bool) (l : List α) (a : α) :
    sinceLast p (l ++ [a]) = if p a then [] else sinceLast p l ++ [a] := by
  cases h : p a <;> simp [sinceLast, h]

@[simp] theorem sinceLast_nil {α : Type} (p : α → Bool) : sinceLast p [] = [] := rfl

theorem mem_of_mem_sinceLast {α : Type} {p : α → Bool} {l : List α} {a : α}
    (h : a ∈ sinceLast p l) : a ∈ l :=
  List.mem_reverse.mp (List.takeWhile_subset _ (List.mem_reverse.mp h))

/-- One operation on the equipment state. -/
inductive Op where
  | setFeatureFlags (flags : Dict String)
  | apply (objects : List ObjectData) (source : Source)
  | markInitialDone
  | reset

namespace Op

def objects : Op → List ObjectData
  | .apply objects _ => objects
  | _ => []

def isReset : Op → Bool
  | .reset => true
  | _ => false

/-- The objects applied since the last reset, in order. -/
def applied (ops : List Op) : List ObjectData := (sinceLast isReset ops).flatMap objects

/-- Operations whose objects are all well formed. -/
def WellFormed (ops : List Op) : Prop := ∀ op ∈ ops, ∀ o ∈ op.objects, o.WellFormed

instance (ops : List Op) : Decidable (WellFormed ops) :=
  inferInstanceAs (Decidable (∀ op ∈ ops, ∀ o ∈ op.objects, o.WellFormed))

theorem applied_append_single (ops : List Op) (op : Op) :
    applied (ops ++ [op]) = if op.isReset then [] else applied ops ++ op.objects := by
  cases h : op.isReset <;> simp [applied, sinceLast_append_single, h]

end Op

namespace EquipmentState

def perform (s : EquipmentState) : Op → EquipmentState
  | .setFeatureFlags flags => s.setFeatureFlags flags
  | .apply objects source => (s.apply objects source).1
  | .markInitialDone => s.markInitialDone
  | .reset => s.reset

def run (s : EquipmentState) (ops : List Op) : EquipmentState := ops.foldl perform s

@[simp] theorem run_nil (s : EquipmentState) : s.run [] = s := rfl

theorem run_append_single (s : EquipmentState) (ops : List Op) (op : Op) :
    s.run (ops ++ [op]) = (s.run ops).perform op := by
  simp [run, List.foldl_append]

@[simp] theorem objects_apply (s : EquipmentState) (objs : List ObjectData) (source : Source) :
    (s.apply objs source).1.objects = objs.foldl learn s.objects := rfl

@[simp] theorem featureFlags_apply (s : EquipmentState) (objs : List ObjectData) (source : Source) :
    (s.apply objs source).1.featureFlags = s.featureFlags := rfl

/-- The objects after one operation: an update lays its objects over the cache, a reset
empties it, and nothing else touches it. -/
theorem objects_perform (s : EquipmentState) (op : Op) :
    (s.perform op).objects =
      if op.isReset then Dict.empty else op.objects.foldl learn s.objects := by
  cases op <;> rfl

/-- The cache of every state reached from a fresh one keeps the invariant. -/
theorem cacheWF_run {ops : List Op} (h : Op.WellFormed ops) :
    CacheWF (({} : EquipmentState).run ops).objects := by
  induction ops using List.reverseRecOn with
  | nil => exact cacheWF_empty
  | append_singleton ops op ih =>
    have hops : Op.WellFormed ops := fun op' hop' => h op' (List.mem_append_left _ hop')
    rw [run_append_single, objects_perform]
    split
    · exact cacheWF_empty
    · exact (ih hops).foldl_learn (h op (List.mem_append_right _ List.mem_cons_self))

/-! ## The cache after any run -/

/-- **The cache is every object applied since the last reset, merged by name in order.**
Induction on the run from its end: an update extends the history and lays the same objects
over the cache; a reset empties both. -/
theorem object?_run (ops : List Op) (n : String) :
    ((({} : EquipmentState).run ops).object? n) =
      mergeAll ((Op.applied ops).filter (·.objnam == n)) := by
  induction ops using List.reverseRecOn with
  | nil => rfl
  | append_singleton ops op ih =>
    rw [run_append_single, Op.applied_append_single, object?, objects_perform]
    cases op.isReset
    · -- an update: the cache entry and the history both take its objects of this name
      rw [if_neg Bool.false_ne_true, if_neg Bool.false_ne_true, get?_foldl_learn, ← object?, ih,
        List.filter_append, mergeAll_append]
    · -- a reset: the cache and the history are both empty
      rw [if_pos rfl, if_pos rfl]
      rfl

/-- Every parameter of a cached object has the value of the last object of that name,
applied since the last reset, that carries the parameter. -/
theorem get?_object?_run (ops : List Op) (h : Op.WellFormed ops)
    (n p : String) :
    ((({} : EquipmentState).run ops).object? n).bind (·.get? p) =
      lastValue ((Op.applied ops).filter (·.objnam == n)) p := by
  rw [object?_run]
  apply get?_mergeAll
  intro o ho
  obtain ⟨op, hop, ho⟩ := List.mem_flatMap.mp (List.mem_filter.mp ho).1
  exact h op (mem_of_mem_sinceLast hop) o ho

/-- An update never drops an object. -/
theorem object?_isSome_apply {s : EquipmentState} {n : String} (h : (s.object? n).isSome)
    (objs : List ObjectData) (source : Source) : ((s.apply objs source).1.object? n).isSome := by
  rw [object?, objects_apply, get?_foldl_learn]
  -- an object of this name is merged into the known one, which stays
  cases objs.filter (·.objnam == n) with
  | nil => exact h
  | cons o rest => rw [List.foldl_cons, foldl_layer_some]; rfl

/-- **The object cache is a last-writer-wins overlay.** After any run from a fresh state, the
object of a name is the first object of that name applied since the last reset with every later
one merged in, so each parameter holds the last value written to it; only names that some of
those objects carry have an object; an update drops no object; and a reset forgets everything
but the feature flags. -/
theorem cache_last_writer_wins (ops : List Op) (hwf : Op.WellFormed ops) :
    let s := ({} : EquipmentState).run ops
    let since := Op.applied ops
    (∀ n, s.object? n = mergeAll (since.filter (·.objnam == n))) ∧
    (∀ n p, (s.object? n).bind (·.get? p) = lastValue (since.filter (·.objnam == n)) p) ∧
    (∀ n, (s.object? n).isSome ↔ ∃ o ∈ since, o.objnam = n) ∧
    (∀ (t : EquipmentState) objs source n, (t.object? n).isSome →
      ((t.apply objs source).1.object? n).isSome) ∧
    (∀ t : EquipmentState, t.reset.objects = Dict.empty ∧ t.reset.derived = {} ∧
      t.reset.tracker = {} ∧ t.reset.featureFlags = t.featureFlags) := by
  refine ⟨object?_run ops, get?_object?_run ops hwf, fun n => ?_,
    fun t objs source n h => object?_isSome_apply h objs source, fun t => ⟨rfl, rfl, rfl, rfl⟩⟩
  rw [object?_run, Option.isSome_iff_ne_none, ne_eq, mergeAll_eq_none_iff, List.filter_eq_nil_iff]
  simp

/-- A pump read in full, a reset, and a partial update of its speed: only the update is left. -/
theorem cache_last_writer_wins_after_reset :
    let ops := [Op.apply [⟨"PMP01", ⟨[("OBJTYP", "PUMP"), ("RPM", "1800")]⟩⟩] .poll, .reset,
      .apply [⟨"PMP01", ⟨[("RPM", "2400")]⟩⟩, ⟨"PMP01", ⟨[("WATTS", "600")]⟩⟩] .push]
    Op.WellFormed ops ∧
      (∀ n, (({} : EquipmentState).run ops).object? n =
        mergeAll ((Op.applied ops).filter (·.objnam == n))) ∧
      (∀ n p, ((({} : EquipmentState).run ops).object? n).bind (·.get? p) =
        lastValue ((Op.applied ops).filter (·.objnam == n)) p) ∧
      (∀ n, ((({} : EquipmentState).run ops).object? n).isSome ↔
        ∃ o ∈ Op.applied ops, o.objnam = n) ∧
      (∀ (t : EquipmentState) objs source n, (t.object? n).isSome →
        ((t.apply objs source).1.object? n).isSome) ∧
      (∀ t : EquipmentState, t.reset.objects = Dict.empty ∧ t.reset.derived = {} ∧
        t.reset.tracker = {} ∧ t.reset.featureFlags = t.featureFlags) :=
  ⟨by decide, cache_last_writer_wins _ (by decide)⟩

end EquipmentState

end PoolMonitor.Equipment
