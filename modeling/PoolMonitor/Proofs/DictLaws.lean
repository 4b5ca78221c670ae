import Mathlib
import PoolMonitor.Data.Dict
/-!
# Dictionaries as finite maps

A `Dict` is a list of entries. It is a finite map when its keys strictly increase
(`Dict.Sorted`): every dictionary built from `empty` by `insert` and `overlay` is one. This
module gives the lookup laws of the operations and the fact that makes sorted dictionaries
canonical:

* **`get?_insert`** — a write replaces the value of its key and leaves every other key alone.
  It holds of any entry list, sorted or not: `insertEntry` stops at the first entry whose key
  is not below the new one, so the new entry is the first with its key.
* **`Sorted.insert`**, **`Sorted.overlay`** — writes keep the keys increasing.
* **`get?_overlay`** — overlaying a sorted dictionary reads its value where it has one, and
  the base's value elsewhere.
* **`Sorted.ext`** — two sorted dictionaries with the same lookups are equal, entry list and
  all. Whatever walks a dictionary in entry order (deriving readings, say) then depends on
  its lookups only.
-/

namespace PoolMonitor.Dict

variable {β : Type}

/-- The keys strictly increase along the entries, so each key has at most one entry. -/
def Sorted (d : Dict β) : Prop := d.toList.Pairwise (fun a b => a.1 < b.1)

instance (d : Dict β) : Decidable d.Sorted := inferInstanceAs (Decidable (List.Pairwise _ _))

theorem sorted_empty : (empty : Dict β).Sorted := List.Pairwise.nil

/-! ## Lookup -/

@[simp] theorem get?_empty (k : String) : (empty : Dict β).get? k = none := rfl

@[simp] theorem get?_nil (k : String) : (⟨[]⟩ : Dict β).get? k = none := rfl

theorem get?_cons (k k' : String) (v : β) (l : List (String × β)) :
    (⟨(k, v) :: l⟩ : Dict β).get? k' = if k = k' then some v else (⟨l⟩ : Dict β).get? k' := by
  by_cases h : k = k' <;> simp [get?, h]

/-- A lookup that finds something finds an entry of the list. -/
theorem mem_of_get?_eq_some {d : Dict β} {k : String} {v : β} (h : d.get? k = some v) :
    (k, v) ∈ d.toList := by
  obtain ⟨e, he, rfl⟩ := Option.map_eq_some_iff.mp h
  have hk : e.1 = k := by simpa using List.find?_some he
  exact hk ▸ List.mem_of_find?_eq_some he

/-- A key below every key of the list has no entry. -/
theorem get?_eq_none_of_lt {l : List (String × β)} {k : String} (h : ∀ e ∈ l, k < e.1) :
    (⟨l⟩ : Dict β).get? k = none := by
  simp only [get?, Option.map_eq_none_iff, List.find?_eq_none, beq_iff_eq]
  intro e he hek
  exact String.lt_irrefl k (hek ▸ h e he)

theorem mem_insertEntry {k : String} {v : β} {e : String × β} :
    ∀ {l : List (String × β)}, e ∈ insertEntry k v l → e = (k, v) ∨ e ∈ l
  | [] => by simp [insertEntry]
  | (k', v') :: rest => by
    simp only [insertEntry]
    split_ifs with hlt heq
    · simp
    · intro he
      rcases List.mem_cons.mp he with he | he
      · exact Or.inl he
      · exact Or.inr (List.mem_cons_of_mem _ he)
    · intro he
      rcases List.mem_cons.mp he with he | he
      · exact Or.inr (he ▸ List.mem_cons_self)
      · rcases mem_insertEntry he with h | h
        · exact Or.inl h
        · exact Or.inr (List.mem_cons_of_mem _ h)

/-- **A write replaces its key and nothing else.** No sortedness is needed: the walk stops
at the first entry whose key is not below `k`, so no entry with key `k` precedes the new one. -/
@[simp] theorem get?_insert (d : Dict β) (k k' : String) (v : β) :
    (d.insert k v).get? k' = if k' = k then some v else d.get? k' := by
  obtain ⟨l⟩ := d
  induction l with
  | nil =>
    rw [insert, insertEntry_nil, get?_cons]
    by_cases hk : k' = k
    · subst hk; simp
    · rw [if_neg (Ne.symm hk), if_neg hk]
  | cons e rest ih =>
    obtain ⟨k₁, v₁⟩ := e
    simp only [insert] at ih ⊢
    rw [insertEntry]
    by_cases hlt : k < k₁
    · -- the new entry goes in front
      rw [if_pos hlt, get?_cons]
      by_cases hk : k' = k
      · subst hk; simp
      · rw [if_neg (Ne.symm hk), if_neg hk]
    · rw [if_neg hlt]
      by_cases heq : k = k₁
      · -- the new entry takes the place of the old one
        subst heq
        rw [if_pos rfl, get?_cons, get?_cons]
        by_cases hk : k' = k
        · subst hk; simp
        · rw [if_neg (Ne.symm hk), if_neg (Ne.symm hk), if_neg hk]
      · -- the new entry goes further on, past `k₁ ≠ k`
        rw [if_neg heq, get?_cons, get?_cons, ih]
        by_cases hk : k' = k
        · subst hk; simp [Ne.symm heq]
        · simp [hk]

theorem contains_iff_get?_isSome (d : Dict β) (k : String) :
    d.contains k = true ↔ (d.get? k).isSome := by
  simp [contains, get?, List.find?_isSome]

/-! ## Writes keep the keys increasing -/

theorem Sorted.insert {d : Dict β} (h : d.Sorted) (k : String) (v : β) :
    (d.insert k v).Sorted := by
  obtain ⟨l⟩ := d
  simp only [Sorted, Dict.insert] at h ⊢
  induction l with
  | nil => simp [insertEntry]
  | cons e rest ih =>
    obtain ⟨k₁, v₁⟩ := e
    have hrest := List.pairwise_cons.mp h
    simp only [insertEntry]
    split_ifs with hlt heq
    · -- the new key goes in front: it is below `k₁` and so below all the rest
      refine List.Pairwise.cons (fun a ha => ?_) h
      rcases List.mem_cons.mp ha with rfl | ha
      · exact hlt
      · exact String.lt_trans hlt (hrest.1 a ha)
    · subst heq
      exact List.Pairwise.cons (fun a ha => hrest.1 a ha) hrest.2
    · -- the new key is above `k₁`, and the rest stays above `k₁`
      have hgt : k₁ < k := lt_of_le_of_ne (not_lt.mp hlt) (Ne.symm heq)
      refine List.Pairwise.cons (fun a ha => ?_) (ih hrest.2)
      rcases mem_insertEntry ha with rfl | ha
      · exact hgt
      · exact hrest.1 a ha

theorem Sorted.overlay {d : Dict β} (h : d.Sorted) (other : Dict β) : (d.overlay other).Sorted := by
  obtain ⟨l⟩ := other
  simp only [Dict.overlay]
  induction l generalizing d with
  | nil => exact h
  | cons e rest ih => exact ih (h.insert e.1 e.2)

/-- A sorted dictionary has no key twice. -/
theorem Sorted.keys_nodup {d : Dict β} (h : d.Sorted) : (d.toList.map (·.1)).Nodup :=
  List.pairwise_map.mpr (h.imp ne_of_lt)

theorem contains_of_mem_keys {d : Dict β} {k : String} (h : k ∈ d.toList.map (·.1)) :
    d.contains k = true := by
  obtain ⟨e, he, rfl⟩ := List.mem_map.mp h
  exact List.any_eq_true.mpr ⟨e, he, beq_self_eq_true _⟩

theorem Sorted.tail {k : String} {v : β} {l : List (String × β)}
    (h : (⟨(k, v) :: l⟩ : Dict β).Sorted) : (⟨l⟩ : Dict β).Sorted :=
  (List.pairwise_cons.mp h).2

/-- The first key of a sorted dictionary has no entry further on. -/
theorem Sorted.get?_tail_head {k : String} {v : β} {l : List (String × β)}
    (h : (⟨(k, v) :: l⟩ : Dict β).Sorted) : (⟨l⟩ : Dict β).get? k = none :=
  get?_eq_none_of_lt (List.pairwise_cons.mp h).1

/-! ## Overlay -/

/-- **Overlay reads the top dictionary first.** A key of `other` takes its value there; any
other key keeps its value in `d`. -/
theorem get?_overlay (d : Dict β) {other : Dict β} (h : other.Sorted) (k : String) :
    (d.overlay other).get? k = (other.get? k).or (d.get? k) := by
  obtain ⟨l⟩ := other
  simp only [Dict.overlay]
  induction l generalizing d with
  | nil => simp
  | cons e rest ih =>
    obtain ⟨k₁, v₁⟩ := e
    rw [List.foldl_cons, ih _ h.tail, get?_insert, get?_cons]
    by_cases hk : k = k₁
    · subst hk
      simp [h.get?_tail_head]
    · simp [hk, Ne.symm hk]

/-! ## Extensionality -/

/-- The first key of a sorted dictionary is its least key. -/
theorem Sorted.head_le {k : String} {v : β} {l : List (String × β)}
    (h : (⟨(k, v) :: l⟩ : Dict β).Sorted) {e : String × β} (he : e ∈ (k, v) :: l) : k ≤ e.1 := by
  rcases List.mem_cons.mp he with rfl | he
  · exact le_rfl
  · exact ((List.pairwise_cons.mp h).1 e he).le

/-- A sorted dictionary's first entry is determined by its lookups: it is the entry of the
least key that has one. -/
theorem Sorted.head_eq {k₁ k₂ : String} {v₁ v₂ : β} {l₁ l₂ : List (String × β)}
    (h₁ : (⟨(k₁, v₁) :: l₁⟩ : Dict β).Sorted) (h₂ : (⟨(k₂, v₂) :: l₂⟩ : Dict β).Sorted)
    (h : ∀ k, (⟨(k₁, v₁) :: l₁⟩ : Dict β).get? k = (⟨(k₂, v₂) :: l₂⟩ : Dict β).get? k) :
    k₁ = k₂ ∧ v₁ = v₂ := by
  -- each first entry is found in the other dictionary
  have hin₁ : (k₁, v₁) ∈ (k₂, v₂) :: l₂ := by
    apply @mem_of_get?_eq_some _ ⟨(k₂, v₂) :: l₂⟩
    rw [← h, get?_cons, if_pos rfl]
  have hin₂ : (k₂, v₂) ∈ (k₁, v₁) :: l₁ := by
    apply @mem_of_get?_eq_some _ ⟨(k₁, v₁) :: l₁⟩
    rw [h, get?_cons, if_pos rfl]
  have hk : k₁ = k₂ := le_antisymm (h₁.head_le hin₂) (h₂.head_le hin₁)
  subst hk
  refine ⟨rfl, ?_⟩
  have := h k₁
  rw [get?_cons, get?_cons, if_pos rfl, if_pos rfl] at this
  exact Option.some.inj this

/-- **Sorted dictionaries are equal when their lookups are.** Induction on the entries: the
first entries agree (`Sorted.head_eq`), and then so do the lookups of the rest. -/
theorem Sorted.ext {d₁ d₂ : Dict β} (h₁ : d₁.Sorted) (h₂ : d₂.Sorted)
    (h : ∀ k, d₁.get? k = d₂.get? k) : d₁ = d₂ := by
  obtain ⟨l₁⟩ := d₁
  obtain ⟨l₂⟩ := d₂
  induction l₁ generalizing l₂ with
  | nil =>
    cases l₂ with
    | nil => rfl
    | cons e₂ rest₂ =>
      have := h e₂.1
      rw [get?_nil, get?_cons, if_pos rfl] at this
      exact absurd this (by simp)
  | cons e₁ rest₁ ih =>
    cases l₂ with
    | nil =>
      have := h e₁.1
      rw [get?_nil, get?_cons, if_pos rfl] at this
      exact absurd this (by simp)
    | cons e₂ rest₂ =>
      obtain ⟨k₁, v₁⟩ := e₁
      obtain ⟨k₂, v₂⟩ := e₂
      obtain ⟨rfl, rfl⟩ := Sorted.head_eq h₁ h₂ h
      -- the rests agree on every key: on `k₁` both have nothing, elsewhere `h` says so
      have hrest : ∀ k, (⟨rest₁⟩ : Dict β).get? k = (⟨rest₂⟩ : Dict β).get? k := by
        intro k
        by_cases hk : k₁ = k
        · subst hk
          rw [h₁.get?_tail_head, h₂.get?_tail_head]
        · have := h k
          rwa [get?_cons, get?_cons, if_neg hk, if_neg hk] at this
      have := ih h₁.tail rest₂ h₂.tail hrest
      simp only [Dict.mk.injEq] at this
      rw [this]

/-! ## Writing a list of entries -/

end PoolMonitor.Dict
