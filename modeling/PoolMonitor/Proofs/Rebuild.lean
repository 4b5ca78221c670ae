import Mathlib
import PoolMonitor.Proofs.ObjectCache
/-!
# Rebuilding the state from its cache

An update lays its objects over the cache and then derives every reading and every derived map
anew from the whole cache and the feature flags: nothing derived by an earlier update is kept
or read. This module states what that buys: the state an update leaves behind is the state a
fresh one with the same flags rebuilds from the cached objects, whatever their order.

* **`filter_values_eq`** — in a reachable cache the objects filed under one name are that
  name's entry alone;
* **`foldl_learn_perm`** — so laying the cached objects over an empty cache, in any order,
  gives the cache back;
* **`apply_eq_rebuild`** — an update's readings and derived maps are those of a fresh state
  with the same flags that is fed the cached objects in any order.
-/

namespace PoolMonitor.Equipment

open PoolMonitor.Wire

/-! ## The objects of a reachable cache -/

/-- In sorted entries that each file an object under its own name, the objects of a name are
the entry of that name, if there is one. Induction on the entries: the first entry's name is
below every later one, so a name matches at most one entry. -/
theorem filter_values_of_named {l : List (String × ObjectData)}
    (hs : (⟨l⟩ : Dict ObjectData).Sorted) (hn : ∀ e ∈ l, e.2.objnam = e.1) (n : String) :
    (l.map (·.2)).filter (·.objnam == n) = ((⟨l⟩ : Dict ObjectData).get? n).toList := by
  induction l with
  | nil => rfl
  | cons e rest ih =>
    obtain ⟨k, o⟩ := e
    have hk : o.objnam = k := hn (k, o) List.mem_cons_self
    have hrest := ih hs.tail fun e he => hn e (List.mem_cons_of_mem _ he)
    rw [List.map_cons, List.filter_cons, Dict.get?_cons, hk]
    by_cases h : k = n
    · -- the later entries have larger names, so none of them is `n`
      subst h
      rw [if_pos (beq_self_eq_true k), if_pos rfl, hrest, hs.get?_tail_head]
      rfl
    · have hkn : (k == n) = false := beq_false_of_ne h
      rw [hkn, if_neg Bool.false_ne_true, if_neg h, hrest]

theorem CacheWF.filter_values_eq {c : Dict ObjectData} (h : CacheWF c) (n : String) :
    (c.toList.map (·.2)).filter (·.objnam == n) = (c.get? n).toList :=
  filter_values_of_named h.sorted h.named n

/-- **A reachable cache is rebuilt from its objects in any order.** Name by name, the objects
laid down for a name are a permutation of that name's one entry, so they are that entry. -/
theorem foldl_learn_perm {c : Dict ObjectData} (h : CacheWF c) {l : List ObjectData}
    (hl : l.Perm (c.toList.map (·.2))) : l.foldl EquipmentState.learn Dict.empty = c := by
  have hwf : ∀ o ∈ l, o.WellFormed := by
    intro o ho
    obtain ⟨e, he, rfl⟩ := List.mem_map.mp (hl.subset ho)
    exact h.wellFormed e he
  apply Dict.Sorted.ext (cacheWF_empty.foldl_learn hwf).sorted h.sorted
  intro n
  have hp : (l.filter (·.objnam == n)).Perm (c.get? n).toList :=
    (hl.filter _).trans (List.Perm.of_eq (h.filter_values_eq n))
  rw [get?_foldl_learn, Dict.get?_empty]
  cases hc : c.get? n with
  | none =>
    rw [hc, Option.toList_none, List.perm_nil] at hp
    rw [hp]
    rfl
  | some o =>
    rw [hc, Option.toList_some, List.perm_singleton] at hp
    rw [hp]
    rfl

/-! ## An update against a rebuild -/

namespace EquipmentState

@[simp] theorem derived_apply (s : EquipmentState) (objs : List ObjectData) (source : Source) :
    (s.apply objs source).1.derived = derive (objs.foldl learn s.objects) s.featureFlags := rfl

@[simp] theorem readings_apply (s : EquipmentState) (objs : List ObjectData) (source : Source) :
    (s.apply objs source).2.readings = (derive (objs.foldl learn s.objects) s.featureFlags).readings :=
  rfl

@[simp] theorem featureFlags_setFeatureFlags (s : EquipmentState) (flags : Dict String) :
    (s.setFeatureFlags flags).featureFlags = flags := rfl

@[simp] theorem objects_setFeatureFlags (s : EquipmentState) (flags : Dict String) :
    (s.setFeatureFlags flags).objects = s.objects := rfl

end EquipmentState

/-- **No derived state is stale.** From any state reached by operations, an update gives the
readings, the derived maps (temperatures, pump speed, power and flow, circuits, heaters,
features, unknown objects, body heaters and heating) and the freeze flag that a fresh state
with the same feature flags gives when it is fed the objects of the updated cache, in any
order; and that fresh state holds the same cache. -/
theorem apply_eq_rebuild (ops : List Op) (hops : Op.WellFormed ops) (objs : List ObjectData)
    (hobjs : ∀ o ∈ objs, o.WellFormed) (source rebuildSource : Source) (cached : List ObjectData)
    (hcached : cached.Perm
      ((objs.foldl EquipmentState.learn (({} : EquipmentState).run ops).objects).toList.map (·.2))) :
    let s := ({} : EquipmentState).run ops
    let fresh := (({} : EquipmentState).setFeatureFlags s.featureFlags).apply cached rebuildSource
    (s.apply objs source).2.readings = fresh.2.readings ∧
      (s.apply objs source).1.derived = fresh.1.derived ∧
      (s.apply objs source).1.objects = fresh.1.objects := by
  intro s fresh
  have hc : CacheWF (objs.foldl EquipmentState.learn s.objects) :=
    (EquipmentState.cacheWF_run hops).foldl_learn hobjs
  -- the fresh state lays the cached objects over an empty cache and gets the cache back
  have hrebuild : cached.foldl EquipmentState.learn Dict.empty =
      objs.foldl EquipmentState.learn s.objects := foldl_learn_perm hc hcached
  simp only [fresh, EquipmentState.readings_apply, EquipmentState.derived_apply,
    EquipmentState.objects_apply, EquipmentState.featureFlags_setFeatureFlags,
    EquipmentState.objects_setFeatureFlags]
  rw [hrebuild]
  exact ⟨rfl, rfl, rfl⟩

/-- A body and a pump read by poll with a feature flag set, then a push of a new pump speed:
a fresh state fed the cached objects in reverse order derives the same. -/
theorem apply_eq_rebuild_reversed :
    let ops := [Op.setFeatureFlags (Dict.ofList [("FTR01", "fcsrtvhlw")]),
      Op.apply [⟨"B1101", ⟨[("OBJTYP", "BODY"), ("SNAME", "Pool"), ("TEMP", "82")]⟩⟩,
        ⟨"PMP01", ⟨[("OBJTYP", "PUMP"), ("RPM", "1800")]⟩⟩] .poll]
    let objs : List ObjectData := [⟨"PMP01", ⟨[("RPM", "2400")]⟩⟩]
    let cache := objs.foldl EquipmentState.learn (({} : EquipmentState).run ops).objects
    let cached := (cache.toList.map (·.2)).reverse
    Op.WellFormed ops ∧ (∀ o ∈ objs, o.WellFormed) ∧ cached.Perm (cache.toList.map (·.2)) ∧
      let s := ({} : EquipmentState).run ops
      let fresh := (({} : EquipmentState).setFeatureFlags s.featureFlags).apply cached .poll
      (s.apply objs .push).2.readings = fresh.2.readings ∧
        (s.apply objs .push).1.derived = fresh.1.derived ∧
        (s.apply objs .push).1.objects = fresh.1.objects :=
  ⟨by decide, by decide, List.reverse_perm _,
    apply_eq_rebuild _ (by decide) _ (by decide) .push .poll _ (List.reverse_perm _)⟩

end PoolMonitor.Equipment
