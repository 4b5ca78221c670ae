import Mathlib
import PoolMonitor.Proofs.ObjectCache
/-!
# Every derived reading has a key of its own

A reading's key is `category:id`. The tracker remembers one text per key, so if two readings of
one derivation shared a key, each update would report the second over the first and back
again. This module proves that it cannot happen: for a reachable cache (`CacheWF`), the keys of
`derive`'s readings are pairwise different (`keysDistinct_derive`).

The argument follows the seven steps of `derive`:

* the category and the id can be read back from a key, since no category name has a colon
  (`Reading.key_eq_key`);
* each step adds, for one object, readings with that object's name as id and with pairwise
  different categories (`Adds`); folded over objects with different names, a step adds
  readings with pairwise different keys (`adds_foldl`);
* readings of different steps differ in category, except temperatures (bodies and sensors,
  which are different objects) and heater states (heaters named by bodies, and the others).
-/

namespace PoolMonitor.Equipment

open PoolMonitor.Wire

/-! ## Reading keys -/

@[simp] theorem Reading.category_new (c : Category) (id n : String) (v : Float) :
    (Reading.new c id n v).category = c := rfl

@[simp] theorem Reading.entityId_new (c : Category) (id n : String) (v : Float) :
    (Reading.new c id n v).entityId = id := rfl

@[simp] theorem Reading.category_withLabel (r : Reading) (k v : String) :
    (r.withLabel k v).category = r.category := rfl

@[simp] theorem Reading.entityId_withLabel (r : Reading) (k v : String) :
    (r.withLabel k v).entityId = r.entityId := rfl

@[simp] theorem Reading.category_shownAs (r : Reading) (t : String) :
    (r.shownAs t).category = r.category := rfl

@[simp] theorem Reading.entityId_shownAs (r : Reading) (t : String) :
    (r.shownAs t).entityId = r.entityId := rfl

theorem Category.colon_not_mem_name (c : Category) : ':' ∉ c.name.toList := by
  cases c <;> decide

theorem Category.name_injective : Function.Injective Category.name := by
  intro c d h
  cases c <;> cases d <;> first | rfl | simp [Category.name] at h

/-- Two colon-free prefixes, each followed by a colon, split a text alike. -/
theorem append_colon_inj {a b x y : List Char} (ha : ':' ∉ a) (hb : ':' ∉ b)
    (h : a ++ ':' :: x = b ++ ':' :: y) : a = b ∧ x = y := by
  induction a generalizing b with
  | nil =>
    cases b with
    | nil => simpa using h
    | cons c b' =>
      have hc : ':' = c := (List.cons.inj h).1
      exact absurd (hc ▸ List.mem_cons_self) hb
  | cons c a' ih =>
    cases b with
    | nil =>
      have hc : c = ':' := (List.cons.inj h).1
      exact absurd (hc ▸ List.mem_cons_self) ha
    | cons c' b' =>
      obtain ⟨rfl, h'⟩ := List.cons.inj h
      obtain ⟨rfl, rfl⟩ := ih (fun h => ha (List.mem_cons_of_mem _ h))
        (fun h => hb (List.mem_cons_of_mem _ h)) h'
      exact ⟨rfl, rfl⟩

/-- **A key names its category and its id.** -/
theorem Reading.key_eq_key {r s : Reading} :
    r.key = s.key ↔ r.category = s.category ∧ r.entityId = s.entityId := by
  constructor
  · intro h
    have h' := congrArg String.toList h
    simp only [Reading.key, String.toList_append] at h'
    obtain ⟨hn, hid⟩ := append_colon_inj (Category.colon_not_mem_name _)
      (Category.colon_not_mem_name _) (by simpa using h')
    exact ⟨Category.name_injective (String.toList_inj.mp hn), String.toList_inj.mp hid⟩
  · rintro ⟨hc, hid⟩
    simp [Reading.key, hc, hid]

theorem Reading.key_ne_of_category_ne {r s : Reading} (h : r.category ≠ s.category) :
    r.key ≠ s.key :=
  fun hk => h (Reading.key_eq_key.mp hk).1

theorem Reading.key_ne_of_entityId_ne {r s : Reading} (h : r.entityId ≠ s.entityId) :
    r.key ≠ s.key :=
  fun hk => h (Reading.key_eq_key.mp hk).2

/-- No two readings share a key. -/
def KeysDistinct (rs : List Reading) : Prop := rs.Pairwise (fun a b => a.key ≠ b.key)

theorem KeysDistinct.append {as bs : List Reading} (ha : KeysDistinct as) (hb : KeysDistinct bs)
    (h : ∀ a ∈ as, ∀ b ∈ bs, a.key ≠ b.key) : KeysDistinct (as ++ bs) :=
  List.pairwise_append.mpr ⟨ha, hb, h⟩

theorem keysDistinct_reverse {rs : List Reading} : KeysDistinct rs.reverse ↔ KeysDistinct rs := by
  simp only [KeysDistinct, List.pairwise_reverse]
  exact ⟨fun h => h.imp Ne.symm, fun h => h.imp Ne.symm⟩

/-! ## What one step adds -/

/-- A step took the readings `before` to `after` by adding, in front, readings with pairwise
different keys, each with id `id` and satisfying `P`. -/
def Adds (P : Reading → Prop) (id : String) (before after : List Reading) : Prop :=
  ∃ l, after = l ++ before ∧ KeysDistinct l ∧ ∀ r ∈ l, r.entityId = id ∧ P r

theorem adds_nil (P : Reading → Prop) (id : String) (rs : List Reading) : Adds P id rs rs :=
  ⟨[], rfl, List.Pairwise.nil, by simp⟩

theorem adds_cons {P : Reading → Prop} {id : String} {r : Reading} (hid : r.entityId = id)
    (hp : P r) (rs : List Reading) : Adds P id rs (r :: rs) :=
  ⟨[r], rfl, List.pairwise_singleton _ _, by simpa using ⟨hid, hp⟩⟩

/-- Readings of pairwise different categories, all with id `id`, added in front. -/
theorem adds_of_categories {P : Reading → Prop} {id : String} {l before : List Reading}
    (hl : l.Pairwise (·.category ≠ ·.category)) (hp : ∀ r ∈ l, r.entityId = id ∧ P r) :
    Adds P id before (l ++ before) :=
  ⟨l, rfl, hl.imp Reading.key_ne_of_category_ne, hp⟩

/-- **A step folded over objects of different names adds readings of different keys.** Each
object's readings carry its name as their id, so readings of two objects never share a key. -/
theorem adds_foldl {α ε : Type} (step : α → ε → α) (rr : α → List Reading) (name : ε → String)
    (P : Reading → Prop) (hstep : ∀ a e, Adds P (name e) (rr a) (rr (step a e)))
    (es : List ε) (hes : (es.map name).Nodup) (a : α) :
    ∃ l, rr (es.foldl step a) = l ++ rr a ∧ KeysDistinct l ∧
      ∀ r ∈ l, r.entityId ∈ es.map name ∧ P r := by
  induction es generalizing a with
  | nil => exact ⟨[], rfl, List.Pairwise.nil, by simp⟩
  | cons e rest ih =>
    obtain ⟨hfresh, hrest⟩ := List.nodup_cons.mp hes
    obtain ⟨l₁, h₁, hd₁, hp₁⟩ := hstep a e
    obtain ⟨l₂, h₂, hd₂, hp₂⟩ := ih hrest (step a e)
    refine ⟨l₂ ++ l₁, by rw [List.foldl_cons, h₂, h₁, List.append_assoc], ?_, ?_⟩
    · -- later objects have other names than `e`
      refine hd₂.append hd₁ fun r hr s hs => Reading.key_ne_of_entityId_ne ?_
      rw [(hp₁ s hs).1]
      exact fun h => hfresh (h ▸ (hp₂ r hr).1)
    · intro r hr
      rcases List.mem_append.mp hr with hr | hr
      · exact ⟨List.mem_cons_of_mem _ (hp₂ r hr).1, (hp₂ r hr).2⟩
      · exact ⟨(hp₁ r hr).1 ▸ List.mem_cons_self, (hp₁ r hr).2⟩

/-! ## The steps of `derive` -/

@[simp] theorem Derived.readingsRev_emit (d : Derived) (r : Reading) :
    (d.emit r).readingsRev = r :: d.readingsRev := rfl

theorem adds_body (d : Derived) (refs : Referenced) (b : ObjectData) :
    Adds (·.category = .temperature) b.objnam d.readingsRev (d.body refs b).1.readingsRev := by
  unfold Derived.body
  -- only the body temperature is a reading; the heater assignment adds none
  cases number b Key.temp with
  | none =>
    simp only []
    split <;> exact adds_nil _ _ _
  | some t =>
    simp only []
    split <;> (try split) <;> apply adds_cons <;> rfl

theorem adds_referencedHeater (objects : Dict ObjectData) (d : Derived)
    (entry : String × ThermalStatus × String) :
    Adds (·.category = .thermal) entry.1 d.readingsRev
      (d.referencedHeater objects entry).readingsRev := by
  apply adds_cons <;> rfl

theorem adds_heater (refs : Referenced) (d : Derived) (h : ObjectData) :
    Adds (fun r => r.category = .thermal ∧ refs.contains r.entityId = false) h.objnam
      d.readingsRev (d.heater refs h).readingsRev := by
  unfold Derived.heater
  split
  next => exact adds_nil _ _ _
  next hc =>
    apply adds_cons
    · rfl
    · exact ⟨rfl, by simpa using hc⟩

/-- The pump readings: speed, power and flow, each when its parameter is a number. -/
theorem readingsRev_pump (d : Derived) (p : ObjectData) :
    (d.pump p).readingsRev =
      ((number p Key.gpm).map fun v => Reading.new .pumpFlow p.objnam p.name v).toList ++
      ((number p Key.watts).map fun v => Reading.new .pumpPower p.objnam p.name v).toList ++
      ((number p Key.rpm).map fun v => Reading.new .pumpSpeed p.objnam p.name v).toList ++
      d.readingsRev := by
  unfold Derived.pump
  cases number p Key.rpm <;> cases number p Key.watts <;> cases number p Key.gpm <;> rfl

/-- The categories of pump readings. -/
def IsPumpCategory (c : Category) : Prop := c = .pumpSpeed ∨ c = .pumpPower ∨ c = .pumpFlow

theorem adds_pump (d : Derived) (p : ObjectData) :
    Adds (IsPumpCategory ·.category) p.objnam d.readingsRev (d.pump p).readingsRev := by
  rw [readingsRev_pump]
  apply adds_of_categories
  · cases number p Key.gpm <;> cases number p Key.watts <;> cases number p Key.rpm <;> simp
  · cases number p Key.gpm <;> cases number p Key.watts <;> cases number p Key.rpm <;>
      simp [IsPumpCategory]

theorem adds_circuit (flags : Dict String) (d : Derived) (c : ObjectData) :
    Adds (fun r => r.category = .feature ∨ r.category = .circuit) c.objnam d.readingsRev
      (d.circuit flags c).readingsRev := by
  unfold Derived.circuit
  simp only []
  split_ifs
  · exact adds_nil _ _ _
  · apply adds_cons
    · rfl
    · exact Or.inl rfl
  -- a plain circuit, following a body's heating or its own status
  all_goals
    apply adds_cons
    · rfl
    · exact Or.inr rfl

theorem adds_sensor (d : Derived) (s : ObjectData) :
    Adds (·.category = .temperature) s.objnam d.readingsRev (d.sensor s).readingsRev := by
  unfold Derived.sensor
  simp only []
  split
  · exact adds_nil _ _ _
  · split
    · apply adds_cons <;> rfl
    · exact adds_nil _ _ _

theorem adds_other (d : Derived) (o : ObjectData) :
    Adds (·.category = .unknown) o.objnam d.readingsRev (d.other o).readingsRev := by
  unfold Derived.other
  split
  · exact adds_nil _ _ _
  · split
    · exact adds_nil _ _ _
    · apply adds_cons <;> rfl

/-! ## The whole derivation -/

/-- Readings of categories that the others never have: no key is shared. -/
theorem KeysDistinct.append_of_categories {as bs : List Reading} (ha : KeysDistinct as)
    (hb : KeysDistinct bs) (ca cb : List Category) (hca : ∀ a ∈ as, a.category ∈ ca)
    (hcb : ∀ b ∈ bs, b.category ∈ cb) (h : ∀ c ∈ ca, c ∉ cb) : KeysDistinct (as ++ bs) :=
  ha.append hb fun a ha' b hb' =>
    Reading.key_ne_of_category_ne fun hc => h _ (hca a ha') (hc ▸ hcb b hb')

/-- The objects of a reachable cache have pairwise different names. -/
theorem CacheWF.names_nodup {objects : Dict ObjectData} (h : CacheWF objects) :
    ((objects.toList.map (·.2)).map (·.objnam)).Nodup := by
  rw [List.map_map]
  have : objects.toList.map ((·.objnam) ∘ (·.2)) = objects.toList.map (·.1) :=
    List.map_congr_left fun e he => h.named e he
  rw [this]
  exact h.sorted.keys_nodup

theorem names_ofType_nodup {all : List ObjectData} (h : (all.map (·.objnam)).Nodup)
    (typ : String) : ((ofType all typ).map (·.objnam)).Nodup :=
  h.sublist (List.filter_sublist.map _)

/-- Objects of two types have different names, since an object has one type. -/
theorem name_ofType_ne {all : List ObjectData} (h : (all.map (·.objnam)).Nodup)
    {t₁ t₂ : String} (ht : t₁ ≠ t₂) {x y : String} (hx : x ∈ (ofType all t₁).map (·.objnam))
    (hy : y ∈ (ofType all t₂).map (·.objnam)) : x ≠ y := by
  obtain ⟨o₁, ho₁, rfl⟩ := List.mem_map.mp hx
  obtain ⟨o₂, ho₂, rfl⟩ := List.mem_map.mp hy
  obtain ⟨hm₁, hty₁⟩ := List.mem_filter.mp ho₁
  obtain ⟨hm₂, hty₂⟩ := List.mem_filter.mp ho₂
  intro hn
  have ho : o₁ = o₂ := List.inj_on_of_nodup_map h hm₁ hm₂ hn
  subst ho
  exact ht (Option.some.inj ((beq_iff_eq.mp hty₁).symm.trans (beq_iff_eq.mp hty₂)))

/-- A body either leaves the referenced heaters alone or writes one heater's entry. -/
theorem body_refs (d : Derived) (refs : Referenced) (b : ObjectData) :
    (d.body refs b).2 = refs ∨ ∃ k v, (d.body refs b).2 = refs.insert k v := by
  unfold Derived.body
  cases (b.get? Key.htsrc).bind heaterAssignment with
  | none => exact Or.inl rfl
  | some heaterId =>
    cases number b Key.temp <;> cases number b Key.htmode <;> cases number b Key.lotmp <;>
      cases number b Key.hitmp
    -- only a body with a temperature, a heat mode and both set points names its heater
    case some.some.some.some t mode low high =>
      simp only []
      cases refs.get? heaterId with
      | none => exact Or.inr ⟨_, _, rfl⟩
      | some entry =>
        simp only []
        split
        · exact Or.inr ⟨_, _, rfl⟩
        · exact Or.inl rfl
    all_goals exact Or.inl rfl

theorem sorted_body_refs (d : Derived) {refs : Referenced} (h : refs.Sorted) (b : ObjectData) :
    (d.body refs b).2.Sorted := by
  rcases body_refs d refs b with hb | ⟨k, v, hb⟩
  · rw [hb]
    exact h
  · rw [hb]
    exact h.insert k v

theorem sorted_foldl_body_refs (bodies : List ObjectData) (d : Derived) {refs : Referenced}
    (h : refs.Sorted) : (bodies.foldl (fun acc b => acc.1.body acc.2 b) (d, refs)).2.Sorted := by
  induction bodies generalizing d refs with
  | nil => exact h
  | cons b rest ih => exact ih _ (sorted_body_refs d h b)

/-- **No two readings of a derivation share a key.** Each of the seven steps adds readings of
pairwise different keys (`adds_foldl`, one object name per id); steps of different categories
cannot clash; bodies and sensors are different objects; heaters named by bodies are exactly the
ones the unreferenced step skips. -/
theorem keysDistinct_derive {objects : Dict ObjectData} (h : CacheWF objects)
    (flags : Dict String) : KeysDistinct (derive objects flags).readings := by
  have hall := h.names_nodup
  unfold derive
  simp only []
  -- step 1: bodies, which also collect the heaters they name
  obtain ⟨L₁, e₁, d₁, p₁⟩ := adds_foldl (fun acc b => acc.1.body acc.2 b) (·.1.readingsRev)
    (·.objnam) _ (fun a b => adds_body a.1 a.2 b) _ (names_ofType_nodup hall ObjType.body)
    ({ freezeActive := freezeActiveIn (objects.toList.map (·.2)) }, Dict.empty)
  have hrefs := sorted_foldl_body_refs (ofType (objects.toList.map (·.2)) ObjType.body)
    { freezeActive := freezeActiveIn (objects.toList.map (·.2)) } Dict.sorted_empty
  generalize (ofType (objects.toList.map (·.2)) ObjType.body).foldl _ _ = B at e₁ hrefs
  obtain ⟨D₁, refs⟩ := B
  simp only [] at e₁ hrefs ⊢
  -- steps 2 to 7
  obtain ⟨L₂, e₂, d₂, p₂⟩ := adds_foldl (Derived.referencedHeater objects) (·.readingsRev)
    (·.1) _ (adds_referencedHeater objects) _ hrefs.keys_nodup D₁
  obtain ⟨L₃, e₃, d₃, p₃⟩ := adds_foldl (Derived.heater refs) (·.readingsRev) (·.objnam) _
    (adds_heater refs) _ (names_ofType_nodup hall ObjType.heater) _
  obtain ⟨L₄, e₄, d₄, p₄⟩ := adds_foldl Derived.pump (·.readingsRev) (·.objnam) _
    adds_pump _ (names_ofType_nodup hall ObjType.pump) _
  obtain ⟨L₅, e₅, d₅, p₅⟩ := adds_foldl (Derived.circuit flags) (·.readingsRev) (·.objnam) _
    (adds_circuit flags) _ (names_ofType_nodup hall ObjType.circuit) _
  obtain ⟨L₆, e₆, d₆, p₆⟩ := adds_foldl Derived.sensor (·.readingsRev) (·.objnam) _
    adds_sensor _ (names_ofType_nodup hall ObjType.sensor) _
  obtain ⟨L₇, e₇, d₇, p₇⟩ := adds_foldl Derived.other (·.readingsRev) (·.objnam) _
    adds_other _ hall _
  rw [Derived.readings, keysDistinct_reverse, e₇, e₆, e₅, e₄, e₃, e₂, e₁, List.append_nil]
  -- from the oldest readings outwards; `cᵢ` lists the categories seen so far
  have s₂ : KeysDistinct (L₂ ++ L₁) :=
    d₂.append_of_categories d₁ [.thermal] [.temperature]
      (fun a ha => by simp [(p₂ a ha).2]) (fun b hb => by simp [(p₁ b hb).2]) (by simp)
  -- heaters named by bodies and the other heaters: the latter skip the named ones
  have s₃ : KeysDistinct (L₃ ++ (L₂ ++ L₁)) := by
    refine d₃.append s₂ fun a ha b hb => ?_
    rcases List.mem_append.mp hb with hb | hb
    · apply Reading.key_ne_of_entityId_ne
      intro hid
      have hin := Dict.contains_of_mem_keys (hid ▸ (p₂ b hb).1)
      rw [(p₃ a ha).2.2] at hin
      exact Bool.false_ne_true hin
    · exact Reading.key_ne_of_category_ne (by rw [(p₃ a ha).2.1, (p₁ b hb).2]; decide)
  have c₃ : ∀ b ∈ L₃ ++ (L₂ ++ L₁), b.category ∈ [.thermal, .temperature] := by
    intro b hb
    rcases List.mem_append.mp hb with hb | hb
    · simp [(p₃ b hb).2.1]
    · rcases List.mem_append.mp hb with hb | hb
      · simp [(p₂ b hb).2]
      · simp [(p₁ b hb).2]
  have s₄ := d₄.append_of_categories s₃ [.pumpSpeed, .pumpPower, .pumpFlow] _
    (fun a ha => by rcases (p₄ a ha).2 with h | h | h <;> simp [h]) c₃ (by simp)
  have c₄ : ∀ b ∈ L₄ ++ (L₃ ++ (L₂ ++ L₁)),
      b.category ∈ [.pumpSpeed, .pumpPower, .pumpFlow, .thermal, .temperature] := by
    intro b hb
    rcases List.mem_append.mp hb with hb | hb
    · rcases (p₄ b hb).2 with h | h | h <;> simp [h]
    · have := c₃ b hb
      simp only [List.mem_cons, List.not_mem_nil, or_false] at this ⊢
      rcases this with h | h <;> simp [h]
  have s₅ := d₅.append_of_categories s₄ [.feature, .circuit] _
    (fun a ha => by rcases (p₅ a ha).2 with h | h <;> simp [h]) c₄ (by simp)
  -- sensors and bodies both give temperatures, but they are different objects
  have s₆ : KeysDistinct (L₆ ++ (L₅ ++ (L₄ ++ (L₃ ++ (L₂ ++ L₁))))) := by
    refine d₆.append s₅ fun a ha b hb => ?_
    simp only [List.mem_append] at hb
    rcases hb with hb | hb | hb | hb | hb
    · apply Reading.key_ne_of_category_ne
      rcases (p₅ b hb).2 with h | h <;> simp [(p₆ a ha).2, h]
    · apply Reading.key_ne_of_category_ne
      rcases (p₄ b hb).2 with h | h | h <;> simp [(p₆ a ha).2, h]
    · exact Reading.key_ne_of_category_ne (by simp [(p₆ a ha).2, (p₃ b hb).2.1])
    · exact Reading.key_ne_of_category_ne (by simp [(p₆ a ha).2, (p₂ b hb).2])
    · exact Reading.key_ne_of_entityId_ne
        (name_ofType_ne hall (by decide) (p₆ a ha).1 (p₁ b hb).1)
  have s₇ : KeysDistinct (L₇ ++ (L₆ ++ (L₅ ++ (L₄ ++ (L₃ ++ (L₂ ++ L₁)))))) := by
    refine d₇.append s₆ fun a ha b hb => Reading.key_ne_of_category_ne ?_
    rw [(p₇ a ha).2]
    simp only [List.mem_append] at hb
    rcases hb with hb | hb | hb | hb | hb | hb
    · simp [(p₆ b hb).2]
    · rcases (p₅ b hb).2 with h | h <;> simp [h]
    · rcases (p₄ b hb).2 with h | h | h <;> simp [h]
    · simp [(p₃ b hb).2.1]
    · simp [(p₂ b hb).2]
    · simp [(p₁ b hb).2]
  exact s₇

end PoolMonitor.Equipment
