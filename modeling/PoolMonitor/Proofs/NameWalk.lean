import PoolMonitor.Discovery.Answer
/-!
# The name walk ends

Reading a name is a loop over length bytes whose pointers may jump anywhere in the packet, even
backwards, so nothing in its shape bounds it. This module proves what the loop does on every
packet, however it is laid out:

* **`nameStep_label`**, **`nameStep_pointer`** compute a round from the bytes at the cursor, and
  **`nameStep_eq_next`** inverts a round that goes on: it read a label that fits, or took a
  pointer with jumps to spare.
* **`nameRun`** is the loop cut off after `k` rounds. Every round that goes on spends budget
  (`nameStep_budget_lt`), so once `k` reaches the budget the loop has ended with
  `readNameFrom`'s answer (**`nameRun_of_budget_le`**): a name read from any offset takes at
  most `17 · (length + 1)` rounds (**`readName_within_rounds`**), and no cursor on the way has
  made more than 16 jumps (**`nameRun_jumps_le`**).
* **`Behind`** and **`nameRun_behind`**: a walk started at the same position, with as many jumps
  made and a name as long, retraces the first walk unless it stops on the jump limit or the
  name length limit. Hence **`readName_of_cycle`**: a walk that comes back to a position it
  has been at ends in `pointerLoop` or `badLabel`.
* **`DnsError.NearPacket`**: the offsets a parse computes stay within `10 + 0xFFFF` bytes past
  the end of the packet (**`parseResponse_error_near`**).
* **`name_walk_terminates`** — all of it together.
-/

namespace PoolMonitor.Discovery

/-! ## Binding reads -/

section Bind

variable {ε α β : Type} {x : Except ε α} {f : α → Except ε β}

theorem bind_eq_ok {b : β} : x >>= f = .ok b ↔ ∃ a, x = .ok a ∧ f a = .ok b := by
  cases x <;> simp [bind, Except.bind]

theorem bind_eq_error {e : ε} : x >>= f = .error e ↔ x = .error e ∨ ∃ a, x = .ok a ∧ f a = .error e := by
  cases x <;> simp [bind, Except.bind]

end Bind

/-! ## One round -/

theorem appendLabel_size (name label : String) :
    (appendLabel name label).utf8ByteSize =
      if name.utf8ByteSize = 0 then label.utf8ByteSize
      else name.utf8ByteSize + 1 + label.utf8ByteSize := by
  unfold appendLabel
  by_cases h : name.utf8ByteSize = 0
  · rw [if_pos (String.isEmpty_iff_utf8ByteSize_eq_zero.mpr h), if_pos h]
  · rw [if_neg (mt String.isEmpty_iff_utf8ByteSize_eq_zero.mp h), if_neg h,
      String.utf8ByteSize_append, String.utf8ByteSize_append]
    rfl

/-- A label added to a name at least as long as another gives a name at least as long. -/
theorem appendLabel_size_mono {a b : String} (label : String)
    (h : a.utf8ByteSize ≤ b.utf8ByteSize) :
    (appendLabel a label).utf8ByteSize ≤ (appendLabel b label).utf8ByteSize := by
  rw [appendLabel_size, appendLabel_size]
  split <;> split <;> omega

theorem appendLabel_size_le (name label : String) :
    name.utf8ByteSize ≤ (appendLabel name label).utf8ByteSize := by
  rw [appendLabel_size]
  split <;> omega

variable {p : ByteArray} {c c' d : NameCursor}

/-- A length byte of 1 to 63 whose label lies in the packet adds the label, unless the name
would then outgrow 255 bytes. -/
theorem nameStep_label {b : UInt8} (hb : p[c.pos]? = some b) (h0 : 0 < b.toNat)
    (h1 : b.toNat < 0x40) (hfit : c.pos + 1 + b.toNat ≤ p.size) :
    nameStep p c =
      if (appendLabel c.name (labelText p (c.pos + 1) b.toNat)).utf8ByteSize > maxNameLength then
        .done (.error (.badLabel c.pos))
      else .next { c with
        name := appendLabel c.name (labelText p (c.pos + 1) b.toNat)
        pos := c.pos + 1 + b.toNat } := by
  simp only [nameStep, hb, if_neg (Nat.pos_iff_ne_zero.mp h0), if_pos h1, if_pos hfit]

/-- A zero length byte ends the name: where it ends is two bytes after the first pointer, if
one was taken, and just after the zero otherwise. -/
theorem nameStep_end (hb : p[c.pos]? = some 0) :
    nameStep p c = .done (.ok (c.name, c.stop.getD (c.pos + 1))) := by
  simp [nameStep, hb]

/-- A pointer jumps to the offset its two bytes give, unless 16 jumps were made already. -/
theorem nameStep_pointer {b low : UInt8} (hb : p[c.pos]? = some b) (h : 0xC0 ≤ b.toNat)
    (hlow : p[c.pos + 1]? = some low) :
    nameStep p c =
      if c.jumps + 1 > maxJumps then .done (.error .pointerLoop)
      else .next { c with
        stop := some (c.stop.getD (c.pos + 2))
        jumps := c.jumps + 1
        pos := (b.toNat % 0x40) * 256 + low.toNat } := by
  simp only [nameStep, hb, hlow, if_neg (show ¬b.toNat = 0 by omega),
    if_neg (show ¬b.toNat < 0x40 by omega), if_pos h]

/-- **A round that goes on** read a label that lies in the packet and keeps the name within 255
bytes, or took a pointer whose second byte is there, with a jump to spare. -/
theorem nameStep_eq_next (h : nameStep p c = .next c') :
    ∃ b : UInt8, p[c.pos]? = some b ∧
      ((0 < b.toNat ∧ b.toNat < 0x40 ∧ c.pos + 1 + b.toNat ≤ p.size ∧
          (appendLabel c.name (labelText p (c.pos + 1) b.toNat)).utf8ByteSize ≤ maxNameLength ∧
          c' = { c with
            name := appendLabel c.name (labelText p (c.pos + 1) b.toNat)
            pos := c.pos + 1 + b.toNat }) ∨
        (0xC0 ≤ b.toNat ∧ ∃ low : UInt8, p[c.pos + 1]? = some low ∧ c.jumps + 1 ≤ maxJumps ∧
          c' = { c with
            stop := some (c.stop.getD (c.pos + 2))
            jumps := c.jumps + 1
            pos := (b.toNat % 0x40) * 256 + low.toNat })) := by
  cases hb : p[c.pos]? with
  | none => simp [nameStep, hb] at h
  | some b =>
    refine ⟨b, rfl, ?_⟩
    by_cases h0 : b.toNat = 0
    · simp [nameStep, hb, h0] at h
    by_cases h1 : b.toNat < 0x40
    · by_cases hfit : c.pos + 1 + b.toNat ≤ p.size
      · rw [nameStep_label hb (by omega) h1 hfit] at h
        split at h
        · cases h
        · cases h
          exact .inl ⟨by omega, h1, hfit, by omega, rfl⟩
      · simp [nameStep, hb, h0, h1, hfit] at h
    by_cases h2 : 0xC0 ≤ b.toNat
    · cases hlow : p[c.pos + 1]? with
      | none => simp [nameStep, hb, h0, h1, h2, hlow] at h
      | some low =>
        rw [nameStep_pointer hb h2 hlow] at h
        split at h
        · cases h
        · cases h
          exact .inr ⟨h2, low, rfl, by omega, rfl⟩
    · simp [nameStep, hb, h0, h1, h2] at h

/-- A round that goes on never drops a jump or shortens the name. -/
theorem nameStep_grows (h : nameStep p c = .next c') :
    c.jumps ≤ c'.jumps ∧ c.name.utf8ByteSize ≤ c'.name.utf8ByteSize := by
  obtain ⟨b, -, ⟨-, -, -, -, rfl⟩ | ⟨-, low, -, -, rfl⟩⟩ := nameStep_eq_next h
  · exact ⟨Nat.le_refl _, appendLabel_size_le _ _⟩
  · exact ⟨Nat.le_succ _, Nat.le_refl _⟩

theorem readNameFrom_of_done {r : Except DnsError (String × Nat)} (h : nameStep p c = .done r) :
    readNameFrom p c = r := by
  rw [readNameFrom]
  split <;> simp_all

theorem readNameFrom_of_next (h : nameStep p c = .next c') :
    readNameFrom p c = readNameFrom p c' := by
  rw [readNameFrom]
  split <;> simp_all

/-! ## Runs of rounds -/

/-- The name loop cut off after `k` rounds: its answer, or the cursor it stands at. -/
def nameRun (p : ByteArray) : Nat → NameCursor → NameStep
  | 0, c => .next c
  | k + 1, c =>
    match nameStep p c with
    | .done r => .done r
    | .next c' => nameRun p k c'

theorem nameRun_succ_of_done {k : Nat} {r : Except DnsError (String × Nat)}
    (h : nameStep p c = .done r) : nameRun p (k + 1) c = .done r := by
  simp [nameRun, h]

theorem nameRun_succ_of_next {k : Nat} (h : nameStep p c = .next c') :
    nameRun p (k + 1) c = nameRun p k c' := by
  simp [nameRun, h]

/-- A run cut off before its end stands where the whole loop goes on from. -/
theorem readNameFrom_of_nameRun {k : Nat} (h : nameRun p k c = .next c') :
    readNameFrom p c = readNameFrom p c' := by
  induction k generalizing c with
  | zero => cases h; rfl
  | succ k ih =>
    cases hs : nameStep p c with
    | done r => rw [nameRun_succ_of_done hs] at h; cases h
    | next c₁ =>
      rw [nameRun_succ_of_next hs] at h
      rw [readNameFrom_of_next hs]
      exact ih h

/-- The budget never runs out before the loop ends. -/
theorem budget_pos : 0 < c.budget p := by
  unfold NameCursor.budget
  omega

/-- Each round of a run spends budget. -/
theorem nameRun_budget_le {k : Nat} (h : nameRun p k c = .next c') :
    c'.budget p + k ≤ c.budget p := by
  induction k generalizing c with
  | zero => cases h; omega
  | succ k ih =>
    cases hs : nameStep p c with
    | done r => rw [nameRun_succ_of_done hs] at h; cases h
    | next c₁ =>
      rw [nameRun_succ_of_next hs] at h
      have := nameStep_budget_lt hs
      have := ih h
      omega

/-- **The loop ends within its budget**, with `readNameFrom`'s answer. -/
theorem nameRun_of_budget_le {k : Nat} (hk : c.budget p ≤ k) :
    nameRun p k c = .done (readNameFrom p c) := by
  induction k generalizing c with
  | zero => exact absurd hk (Nat.not_le.mpr budget_pos)
  | succ k ih =>
    cases hs : nameStep p c with
    | done r => rw [nameRun_succ_of_done hs, readNameFrom_of_done hs]
    | next c₁ =>
      rw [nameRun_succ_of_next hs, readNameFrom_of_next hs]
      have := nameStep_budget_lt hs
      exact ih (by omega)

/-- A name read from any offset starts with a budget of at most `17 · (length + 1)` rounds. -/
theorem budget_start_le (offset : Nat) :
    ({ pos := offset } : NameCursor).budget p ≤ (maxJumps + 1) * (p.size + 1) := by
  unfold NameCursor.budget
  simp only [maxJumps, Nat.sub_zero]
  omega

/-- **Reading a name takes at most `17 · (length + 1)` rounds.** -/
theorem readName_within_rounds (p : ByteArray) (offset : Nat) :
    nameRun p ((maxJumps + 1) * (p.size + 1)) { pos := offset } = .done (readName p offset) :=
  nameRun_of_budget_le (budget_start_le offset)

/-- No cursor on the way has made more than 16 jumps. -/
theorem nameRun_jumps_le {k : Nat} (h : nameRun p k c = .next c') (hc : c.jumps ≤ maxJumps) :
    c'.jumps ≤ maxJumps := by
  induction k generalizing c with
  | zero => cases h; exact hc
  | succ k ih =>
    cases hs : nameStep p c with
    | done r => rw [nameRun_succ_of_done hs] at h; cases h
    | next c₁ =>
      rw [nameRun_succ_of_next hs] at h
      exact ih h (by rcases nameStep_next_cases hs with ⟨hj, -⟩ | ⟨hlt, hj⟩ <;> omega)

/-- With 16 jumps made, a pointer ends the name in a pointer loop. -/
theorem nameStep_jump_limit {b low : UInt8} (hj : c.jumps = maxJumps)
    (hb : p[c.pos]? = some b) (h : 0xC0 ≤ b.toNat) (hlow : p[c.pos + 1]? = some low) :
    nameStep p c = .done (.error .pointerLoop) := by
  rw [nameStep_pointer hb h hlow, if_pos (by omega)]

theorem nameRun_grows {k : Nat} (h : nameRun p k c = .next c') :
    c.jumps ≤ c'.jumps ∧ c.name.utf8ByteSize ≤ c'.name.utf8ByteSize := by
  induction k generalizing c with
  | zero => cases h; exact ⟨Nat.le_refl _, Nat.le_refl _⟩
  | succ k ih =>
    cases hs : nameStep p c with
    | done r => rw [nameRun_succ_of_done hs] at h; cases h
    | next c₁ =>
      rw [nameRun_succ_of_next hs] at h
      obtain ⟨hj, hn⟩ := nameStep_grows hs
      obtain ⟨hj', hn'⟩ := ih h
      exact ⟨Nat.le_trans hj hj', Nat.le_trans hn hn'⟩

/-! ## Walks that come back -/

/-- A cursor `d` behind `c`: at the same position, with at least as many jumps made and a name
at least as long. -/
structure Behind (c d : NameCursor) : Prop where
  pos : d.pos = c.pos
  jumps : c.jumps ≤ d.jumps
  size : c.name.utf8ByteSize ≤ d.name.utf8ByteSize

/-- How a name read ends on a walk that goes round: on the jump limit or the name length limit. -/
def Stopped (r : Except DnsError (String × Nat)) : Prop :=
  r = .error .pointerLoop ∨ ∃ o, r = .error (.badLabel o)

/-- A cursor behind another makes the same round, unless a limit stops it. -/
theorem nameStep_behind (h : nameStep p c = .next c') (hb : Behind c d) :
    (∃ r, nameStep p d = .done r ∧ Stopped r) ∨ ∃ d', nameStep p d = .next d' ∧ Behind c' d' := by
  obtain ⟨hp, hj, hs⟩ := hb
  obtain ⟨b, hbyte, ⟨h0, h1, hfit, -, rfl⟩ | ⟨h2, low, hlow, -, rfl⟩⟩ := nameStep_eq_next h
  · -- the same label, added to a name at least as long
    have hbyte' : p[d.pos]? = some b := hp ▸ hbyte
    have hfit' : d.pos + 1 + b.toNat ≤ p.size := hp ▸ hfit
    rw [nameStep_label hbyte' h0 h1 hfit', hp]
    split
    · exact .inl ⟨_, rfl, .inr ⟨_, rfl⟩⟩
    · exact .inr ⟨_, rfl, ⟨rfl, hj, appendLabel_size_mono _ hs⟩⟩
  · -- the same pointer, taken with at least as many jumps made
    have hbyte' : p[d.pos]? = some b := hp ▸ hbyte
    have hlow' : p[d.pos + 1]? = some low := hp ▸ hlow
    rw [nameStep_pointer hbyte' h2 hlow', hp]
    split
    · exact .inl ⟨_, rfl, .inl rfl⟩
    · exact .inr ⟨_, rfl, ⟨rfl, Nat.succ_le_succ hj, hs⟩⟩

/-- A cursor behind another retraces its run, unless a limit stops it first. -/
theorem nameRun_behind {k : Nat} (h : nameRun p k c = .next c') (hb : Behind c d) :
    Stopped (readNameFrom p d) ∨ ∃ d', nameRun p k d = .next d' ∧ Behind c' d' := by
  induction k generalizing c d with
  | zero => cases h; exact .inr ⟨d, rfl, hb⟩
  | succ k ih =>
    cases hs : nameStep p c with
    | done r => rw [nameRun_succ_of_done hs] at h; cases h
    | next c₁ =>
      rw [nameRun_succ_of_next hs] at h
      rcases nameStep_behind hs hb with ⟨r, hd, hr⟩ | ⟨d₁, hd, hb₁⟩
      · exact .inl (by rw [readNameFrom_of_done hd]; exact hr)
      · rcases ih h hb₁ with hstop | ⟨d', hrun, hb'⟩
        · exact .inl (by rw [readNameFrom_of_next hd]; exact hstop)
        · exact .inr ⟨d', by rw [nameRun_succ_of_next hd]; exact hrun, hb'⟩

/-- A walk that comes back to a position after some rounds ends on a limit. -/
theorem readNameFrom_of_cycle {c₁ c₂ : NameCursor} {m : Nat}
    (h : nameRun p (m + 1) c₁ = .next c₂) (hpos : c₂.pos = c₁.pos) :
    Stopped (readNameFrom p c₂) := by
  -- each lap of the cycle is retraced from where the last one ended, spending budget each time
  suffices ∀ n (c₁ c₂ : NameCursor), c₂.budget p = n → nameRun p (m + 1) c₁ = .next c₂ →
      c₂.pos = c₁.pos → Stopped (readNameFrom p c₂) from this _ c₁ c₂ rfl h hpos
  intro n
  induction n using Nat.strongRecOn with
  | ind n ih =>
    intro c₁ c₂ hn h hpos
    obtain ⟨hj, hs⟩ := nameRun_grows h
    rcases nameRun_behind h ⟨hpos, hj, hs⟩ with hstop | ⟨c₃, h₃, hb⟩
    · exact hstop
    · rw [readNameFrom_of_nameRun h₃]
      have := nameRun_budget_le h₃
      exact ih (c₃.budget p) (by omega) c₂ c₃ rfl h₃ hb.pos

/-- **A walk that comes back to a position it has been at ends in a pointer loop or a bad
label.** -/
theorem readName_of_cycle {offset k m : Nat} {c₁ c₂ : NameCursor}
    (h₁ : nameRun p k { pos := offset } = .next c₁) (h₂ : nameRun p (m + 1) c₁ = .next c₂)
    (hpos : c₂.pos = c₁.pos) : Stopped (readName p offset) := by
  unfold readName
  rw [readNameFrom_of_nameRun h₁, readNameFrom_of_nameRun h₂]
  exact readNameFrom_of_cycle h₂ hpos

/-! ## Offsets stay near the packet -/

/-- An error whose offset lies within `10 + 0xFFFF` bytes past the end of a packet of `size`
bytes (a bad label within it). -/
def DnsError.NearPacket (size : Nat) : DnsError → Prop
  | .truncated o => o ≤ size + (10 + 0xFFFF)
  | .badLabel o => o < size
  | .pointerLoop => True

/-- A cursor near the packet: at a position inside it or one a pointer can give, and with any
end already fixed inside it. -/
structure NameCursor.Near (p : ByteArray) (c : NameCursor) : Prop where
  pos : c.pos ≤ p.size ∨ c.pos < 0x4000
  stop : ∀ s, c.stop = some s → s ≤ p.size

/-- A name read that ends near the packet: the offset after the name inside it, an error
near it. -/
def NameResultNear (p : ByteArray) : Except DnsError (String × Nat) → Prop
  | .ok (_, next) => next ≤ p.size
  | .error e => e.NearPacket p.size

theorem getElem?_some_lt {i : Nat} {b : UInt8} (h : p[i]? = some b) : i < p.size :=
  (getElem?_eq_some_iff.mp h).1

/-- A round keeps the cursor near the packet, or ends near it. -/
theorem nameStep_near (hc : c.Near p) :
    (∀ c', nameStep p c = .next c' → c'.Near p) ∧
      ∀ r, nameStep p c = .done r → NameResultNear p r := by
  constructor
  · intro c' h
    obtain ⟨b, hbyte, ⟨-, -, hfit, -, rfl⟩ | ⟨-, low, hlow, -, rfl⟩⟩ := nameStep_eq_next h
    · exact ⟨.inl hfit, hc.stop⟩
    · have hlt := getElem?_some_lt hlow
      refine ⟨.inr ?_, ?_⟩
      · have := low.toNat_lt
        dsimp only
        omega
      · intro s hs
        cases hstop : c.stop with
        | none => simp [hstop] at hs; omega
        | some s' => simp [hstop] at hs; exact hs ▸ hc.stop s' hstop
  · intro r h
    unfold nameStep at h
    split at h
    · cases h
      exact show c.pos ≤ p.size + (10 + 0xFFFF) by rcases hc.pos with h | h <;> omega
    · rename_i b hbyte
      have hlt := getElem?_some_lt hbyte
      dsimp only at h
      split at h
      · cases h
        show c.stop.getD (c.pos + 1) ≤ p.size
        cases hstop : c.stop with
        | none => simp only [Option.getD_none]; omega
        | some s => exact hc.stop s hstop
      split at h
      · split at h
        · split at h
          · cases h
            exact hlt
          · cases h
        · cases h
          exact show c.pos + 1 ≤ p.size + (10 + 0xFFFF) by omega
      · split at h
        · split at h
          · cases h
            exact show c.pos + 1 ≤ p.size + (10 + 0xFFFF) by omega
          · split at h
            · cases h
              trivial
            · cases h
        · cases h
          exact hlt

/-- A name read from a cursor near the packet ends near it. -/
theorem readNameFrom_near (hc : c.Near p) : NameResultNear p (readNameFrom p c) := by
  suffices ∀ k (c : NameCursor), c.Near p → ∀ r, nameRun p k c = .done r → NameResultNear p r from
    this _ c hc _ (nameRun_of_budget_le (Nat.le_refl _))
  intro k
  induction k with
  | zero => intro c _ r h; cases h
  | succ k ih =>
    intro c hc r h
    cases hs : nameStep p c with
    | done r' =>
      rw [nameRun_succ_of_done hs] at h
      cases h
      exact (nameStep_near hc).2 _ hs
    | next c₁ =>
      rw [nameRun_succ_of_next hs] at h
      exact ih c₁ ((nameStep_near hc).1 _ hs) r h

/-- A name read from inside the packet ends inside it, or fails near it. -/
theorem readName_near {pos : Nat} (hpos : pos ≤ p.size) : NameResultNear p (readName p pos) :=
  readNameFrom_near ⟨.inl hpos, fun _ h => by cases h⟩

theorem u16At_error {i : Nat} {e : DnsError} (h : u16At p i = .error e) : e = .truncated i := by
  unfold u16At at h
  split at h
  · cases h
  · cases h
    rfl

theorem u16At_lt {i v : Nat} (h : u16At p i = .ok v) : v < 0x10000 := by
  unfold u16At at h
  split at h
  · cases h
    have := (p[i]).toNat_lt
    have := (p[i + 1]).toNat_lt
    omega
  · cases h

/-- Reading a record from inside the packet fails, if at all, near it. -/
theorem readRecord_error_near {pos : Nat} {e : DnsError} (hpos : pos ≤ p.size)
    (h : readRecord p pos = .error e) : e.NearPacket p.size := by
  have hname := readName_near hpos
  unfold readRecord at h
  rcases bind_eq_error.mp h with h | ⟨⟨name, next⟩, hown, h⟩
  · rw [h] at hname
    exact hname
  have hnext : next ≤ p.size := by
    rw [hown] at hname
    exact hname
  dsimp only at h
  -- the type, the class and the data length, each at a fixed offset after the name
  rcases bind_eq_error.mp h with h | ⟨_, -, h⟩
  · rw [u16At_error h]
    exact show next ≤ p.size + (10 + 0xFFFF) by omega
  rcases bind_eq_error.mp h with h | ⟨_, -, h⟩
  · rw [u16At_error h]
    exact show next + 2 ≤ p.size + (10 + 0xFFFF) by omega
  rcases bind_eq_error.mp h with h | ⟨rdlen, hlen, h⟩
  · rw [u16At_error h]
    exact show next + 8 ≤ p.size + (10 + 0xFFFF) by omega
  have hrd := u16At_lt hlen
  split at h
  · cases h
  · cases h
    exact show next + 10 + rdlen ≤ p.size + (10 + 0xFFFF) by omega

/-- Passing over questions from inside the packet stays inside it, or fails near it. -/
theorem skipQuestions_near {n pos : Nat} (hpos : pos ≤ p.size) :
    (∀ pos', skipQuestions p n pos = .ok pos' → pos' ≤ p.size) ∧
      ∀ e, skipQuestions p n pos = .error e → e.NearPacket p.size := by
  induction n generalizing pos with
  | zero =>
    refine ⟨fun pos' h => ?_, fun e h => ?_⟩ <;> cases h
    exact hpos
  | succ n ih =>
    have hname := readName_near hpos
    simp only [skipQuestions]
    constructor
    · intro pos' h
      obtain ⟨⟨_, next⟩, -, h⟩ := bind_eq_ok.mp h
      dsimp only at h
      split at h
      · cases h
      · exact (ih (by omega)).1 _ h
    · intro e h
      rcases bind_eq_error.mp h with h | ⟨⟨_, next⟩, hown, h⟩
      · rw [h] at hname
        exact hname
      have hnext : next ≤ p.size := by
        rw [hown] at hname
        exact hname
      dsimp only at h
      split at h
      · cases h
        exact show next + 4 ≤ p.size + (10 + 0xFFFF) by omega
      · exact (ih (by omega)).2 _ h

/-- Looking through records from inside the packet fails, if at all, near it. -/
theorem findAddress_error_near {target : String} {n pos : Nat} {e : DnsError}
    (hpos : pos ≤ p.size) (h : findAddress p target n pos = .error e) : e.NearPacket p.size := by
  induction n generalizing pos with
  | zero => cases h
  | succ n ih =>
    simp only [findAddress] at h
    rcases bind_eq_error.mp h with h | ⟨r, -, h⟩
    · exact readRecord_error_near hpos h
    split at h
    · cases h
    · exact ih r.fits h

/-- **A parse fails, if at all, near the packet**: a truncation within `10 + 0xFFFF` bytes past
its end, a bad label inside it. -/
theorem parseResponse_error_near {hostname : String} {e : DnsError}
    (h : parseResponse p hostname = .error e) : e.NearPacket p.size := by
  unfold parseResponse at h
  split at h
  · cases h
    exact show p.size ≤ p.size + (10 + 0xFFFF) by omega
  rename_i hsize
  have hheader : headerLength ≤ p.size := by omega
  -- the header's fields lie inside the packet, so only the walk can fail
  have hfield : ∀ {i v}, i + 2 ≤ headerLength → u16At p i ≠ .error v := by
    intro i v hi hv
    unfold u16At at hv
    rw [dif_pos (by omega)] at hv
    cases hv
  rcases bind_eq_error.mp h with h | ⟨_, -, h⟩
  · exact absurd h (hfield (by decide))
  split at h
  · cases h
  rcases bind_eq_error.mp h with h | ⟨_, -, h⟩
  · exact absurd h (hfield (by decide))
  rcases bind_eq_error.mp h with h | ⟨_, -, h⟩
  · exact absurd h (hfield (by decide))
  rcases bind_eq_error.mp h with h | ⟨_, -, h⟩
  · exact absurd h (hfield (by decide))
  rcases bind_eq_error.mp h with h | ⟨_, -, h⟩
  · exact absurd h (hfield (by decide))
  rcases bind_eq_error.mp h with h | ⟨pos, hpos, h⟩
  · exact (skipQuestions_near hheader).2 _ h
  exact findAddress_error_near ((skipQuestions_near hheader).1 _ hpos) h

/-! ## The whole walk -/

/-- **Reading a DNS answer always ends, near the packet.** For every packet and host name, a
failed parse reports an offset at most `10 + 0xFFFF` bytes past the end of the packet (a bad
label inside it). A name read from any offset ends within `17 · (length + 1)` rounds with
`readName`'s answer. On the way no cursor has made more than 16 jumps, each round that goes on
reads a label further on in the packet or takes a jump, and a pointer met with 16 jumps made
is a pointer loop. A walk that comes back to a position it has been at ends in a pointer loop
or a bad label. -/
theorem name_walk_terminates (p : ByteArray) (hostname : String) :
    (∀ e, parseResponse p hostname = .error e → e.NearPacket p.size) ∧
    ∀ offset : Nat,
      nameRun p ((maxJumps + 1) * (p.size + 1)) { pos := offset } = .done (readName p offset) ∧
      (∀ k c, nameRun p k { pos := offset } = .next c →
        c.jumps ≤ maxJumps ∧
        (∀ c', nameStep p c = .next c' →
          (c'.jumps = c.jumps ∧ c.pos < c'.pos ∧ c'.pos ≤ p.size) ∨ c'.jumps = c.jumps + 1) ∧
        ∀ b low : UInt8, c.jumps = maxJumps → p[c.pos]? = some b → 0xC0 ≤ b.toNat →
          p[c.pos + 1]? = some low → nameStep p c = .done (.error .pointerLoop)) ∧
      ∀ k m c₁ c₂, nameRun p k { pos := offset } = .next c₁ → nameRun p (m + 1) c₁ = .next c₂ →
        c₂.pos = c₁.pos → Stopped (readName p offset) := by
  refine ⟨fun e h => parseResponse_error_near h, fun offset =>
    ⟨readName_within_rounds p offset, fun k c h => ?_, fun k m c₁ c₂ => readName_of_cycle⟩⟩
  -- the walk starts with no jump made
  refine ⟨nameRun_jumps_le h (Nat.zero_le _), fun c' hs => ?_,
    fun b low hj hb hp hlow => nameStep_jump_limit hj hb hp hlow⟩
  rcases nameStep_next_cases hs with hlabel | ⟨-, hjump⟩
  · exact .inl hlabel
  · exact .inr hjump

end PoolMonitor.Discovery
