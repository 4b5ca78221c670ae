import PoolMonitor.Proofs.AnswerMatch
/-!
# Where a name ends

Besides the name, reading one gives the offset where the next field starts: the record walk
finds a record's type, class and data length at fixed offsets from it. That offset is where
the name ends as its bytes are laid out, not where the walk through it ends. It is two bytes
after the first compression pointer, if the labels at the start lead to one, and just after the
zero byte that ends those labels otherwise.

* **`Labels`**: labels laid out one after another, with no pointer among them, up to the byte
  after them. Only one such row of labels starts at an offset and stops at a byte that is no
  label (`Labels.stop_unique`).
* **`NameEnd`**: where the name written at an offset ends, in those two ways; a name has one end
  (`NameEnd.unique`), inside the packet (`NameEnd.le_size`).
* **`readNameFrom_end`**: the walk in one induction. Until a pointer is taken, the offset it
  gives back is the end of the name at the cursor; after one, it is the offset fixed then.
* **`readName_end`**: a name read from any offset ends inside the packet, where `NameEnd` says;
  it is its labels, pointers followed, joined by dots, and no longer than 255 bytes.
-/

namespace PoolMonitor.Discovery

open PoolMonitor.Text.Utf8

/-! ## Labels read leniently are never empty -/

/-- A byte that completes no character leaves the reader inside a sequence. -/
theorem feed_snd_ne_idle {r : Reader} {b : Nat} (h : (feed r b).1 = []) : (feed r b).2 ≠ .idle := by
  cases r with
  | idle =>
    simp only [feed, start] at h ⊢
    by_cases hb : b < 0x80
    · simp [hb] at h
    · cases hl : lead b with
      | none => simp [hb, hl] at h
      | some t => simp [hb]
  | within bits owed lo hi =>
    simp only [feed] at h ⊢
    by_cases hr : lo ≤ b ∧ b ≤ hi
    · by_cases ho : owed ≤ 1
      · simp [hr, ho] at h
      · simp [hr, ho]
    · simp [hr] at h

/-- Reading inside a sequence, or reading any byte, gives some character. -/
theorem decodeFrom_ne_nil : ∀ {r : Reader} {bs : List Nat}, (r ≠ .idle ∨ bs ≠ []) →
    decodeFrom r bs ≠ []
  | .idle, [], h => by simp at h
  | .within .., [], _ => by simp [decodeFrom, finish]
  | r, b :: rest, _ => by
    show (feed r b).1 ++ decodeFrom (feed r b).2 rest ≠ []
    by_cases hout : (feed r b).1 = []
    · rw [hout, List.nil_append]
      exact decodeFrom_ne_nil (.inl (feed_snd_ne_idle hout))
    · exact fun h => hout (List.append_eq_nil_iff.mp h).1

/-- A label of some bytes reads as some text. -/
theorem labelString_ne_empty {l : List UInt8} (h : 0 < l.length) : labelString l ≠ "" := by
  intro hempty
  have hnil : decodeFrom .idle (l.map (·.toNat)) = [] := by
    have := congrArg String.toList hempty
    simpa [labelString, decodeLossy] using this
  refine decodeFrom_ne_nil (.inr ?_) hnil
  simpa [← List.length_pos_iff] using h

/-! ## Labels laid out in a row -/

variable {p : ByteArray}

/-- `Labels p pos ls q`: from `pos` on, the packet holds the labels `ls` one after another, each a
length byte of 1 to 63 and that many bytes, and the byte after them is at `q`. -/
inductive Labels (p : ByteArray) : Nat → List (List UInt8) → Nat → Prop where
  | nil (pos : Nat) : Labels p pos [] pos
  | cons {pos q : Nat} {l : List UInt8} {ls : List (List UInt8)} :
      p[pos]? = some (UInt8.ofNat l.length) → 0 < l.length → l.length < 0x40 →
      BytesAt p (pos + 1) l → Labels p (pos + 1 + l.length) ls q → Labels p pos (l :: ls) q

/-- A byte that ends a row of labels: the zero byte of the root, or the first byte of a
pointer. -/
def StopsLabels (b : UInt8) : Prop := b.toNat = 0 ∨ 0xC0 ≤ b.toNat

/-- A byte that starts a label does not end a row of labels. -/
theorem not_stopsLabels_of_label {pos : Nat} {b : UInt8} {l : List UInt8}
    (hb : p[pos]? = some b) (hl : p[pos]? = some (UInt8.ofNat l.length)) (hpos : 0 < l.length)
    (hlt : l.length < 0x40) : ¬StopsLabels b := by
  have := toNat_eq_of_getElem? hb hl
  rw [toNat_ofNat_length hlt] at this
  unfold StopsLabels
  omega

/-- **One row of labels** starts at an offset and stops at a byte that is no label: each length
byte decides how far the next label goes. -/
theorem Labels.stop_unique {pos q q' : Nat} {ls ls' : List (List UInt8)} {b b' : UInt8}
    (h : Labels p pos ls q) (h' : Labels p pos ls' q') (hq : p[q]? = some b) (hs : StopsLabels b)
    (hq' : p[q']? = some b') (hs' : StopsLabels b') : q = q' := by
  induction h generalizing ls' with
  | nil pos =>
    cases h' with
    | nil => rfl
    | cons hl hpos hlt => exact absurd hs (not_stopsLabels_of_label hq hl hpos hlt)
  | cons hl hpos hlt hbytes _ ih =>
    cases h' with
    | nil => exact absurd hs' (not_stopsLabels_of_label hq' hl hpos hlt)
    | cons hl' hpos' hlt' hbytes' hrest' =>
      -- the two first labels have the length their common length byte gives
      have hlen := toNat_eq_of_getElem? hl hl'
      rw [toNat_ofNat_length hlt, toNat_ofNat_length hlt'] at hlen
      rw [← hlen] at hrest'
      exact ih hrest' hq

/-! ## The end of a name -/

/-- Where the name written at `pos` ends as its bytes are laid out: just after the zero byte that
ends the labels from `pos`, or, when those labels lead to a pointer, two bytes after the
pointer. -/
inductive NameEnd (p : ByteArray) (pos : Nat) : Nat → Prop where
  | root {ls : List (List UInt8)} {z : Nat} :
      Labels p pos ls z → p[z]? = some 0 → NameEnd p pos (z + 1)
  | pointer {ls : List (List UInt8)} {q : Nat} {b low : UInt8} :
      Labels p pos ls q → p[q]? = some b → 0xC0 ≤ b.toNat → p[q + 1]? = some low →
      NameEnd p pos (q + 2)

/-- A label in front of a name moves its start and keeps its end. -/
theorem NameEnd.label {pos n : Nat} {l : List UInt8} (hb : p[pos]? = some (UInt8.ofNat l.length))
    (hpos : 0 < l.length) (hlt : l.length < 0x40) (hbytes : BytesAt p (pos + 1) l)
    (h : NameEnd p (pos + 1 + l.length) n) : NameEnd p pos n := by
  cases h with
  | root hl hz => exact .root (.cons hb hpos hlt hbytes hl) hz
  | pointer hl hq hc hlow => exact .pointer (.cons hb hpos hlt hbytes hl) hq hc hlow

/-- **A name has one end.** Its labels stop at one byte, which is either a zero or a
pointer. -/
theorem NameEnd.unique {pos n n' : Nat} (h : NameEnd p pos n) (h' : NameEnd p pos n') : n = n' := by
  cases h with
  | root hl hz =>
    cases h' with
    | root hl' hz' =>
      rw [hl.stop_unique hl' hz (.inl rfl) hz' (.inl rfl)]
    | pointer hl' hq' hc' =>
      have := hl.stop_unique hl' hz (.inl rfl) hq' (.inr hc')
      subst this
      have := toNat_eq_of_getElem? hz hq'
      rw [show (0 : UInt8).toNat = 0 from rfl] at this
      omega
  | pointer hl hq hc =>
    cases h' with
    | root hl' hz' =>
      have := hl.stop_unique hl' hq (.inr hc) hz' (.inl rfl)
      subst this
      have := toNat_eq_of_getElem? hq hz'
      rw [show (0 : UInt8).toNat = 0 from rfl] at this
      omega
    | pointer hl' hq' hc' =>
      rw [hl.stop_unique hl' hq (.inr hc) hq' (.inr hc')]

/-- A name ends inside the packet: its last byte, the zero or the pointer's second byte, is
there. -/
theorem NameEnd.le_size {pos n : Nat} (h : NameEnd p pos n) : n ≤ p.size := by
  cases h with
  | root _ hz =>
    have := getElem?_some_lt hz
    omega
  | pointer _ _ _ hlow =>
    have := getElem?_some_lt hlow
    omega

/-! ## The walk -/

/-- **The offset a name read gives back.** Induction on the walk: before the first pointer the
cursor moves along the labels, so what is left of the name ends where the whole one does; the
first pointer fixes the end, and later rounds keep it. -/
theorem readNameFrom_end {c : NameCursor} {x : String × Nat} (h : readNameFrom p c = .ok x) :
    (∀ s, c.stop = some s → x.2 = s) ∧ (c.stop = none → NameEnd p c.pos x.2) := by
  fun_induction readNameFrom p c with
  | case1 c r hstep =>
    subst h
    obtain ⟨hz, rfl⟩ := nameStep_eq_done_ok hstep
    refine ⟨fun s hs => by simp [hs], fun hs => ?_⟩
    simpa [hs] using NameEnd.root (Labels.nil c.pos) hz
  | case2 c c' hstep ih =>
    obtain ⟨hkeep, hend⟩ := ih h
    obtain ⟨b, hb, ⟨h0, h1, hfit, -, rfl⟩ | ⟨h2, low, hlow, -, rfl⟩⟩ := nameStep_eq_next hstep
    · -- a label: the end is still ahead, or already fixed
      refine ⟨hkeep, fun hs => ?_⟩
      let l := (p.data.extract (c.pos + 1) (c.pos + 1 + b.toNat)).toList
      have hlen : l.length = b.toNat := by simp [l]; omega
      have hbyte : p[c.pos]? = some (UInt8.ofNat l.length) := by rw [hlen, UInt8.ofNat_toNat]; exact hb
      have hrest : NameEnd p (c.pos + 1 + l.length) x.2 := by
        rw [hlen]
        exact hend hs
      exact NameEnd.label hbyte (by omega) (by omega) bytesAt_extract hrest
    · -- a pointer: the end is fixed two bytes after the first one
      have hx := hkeep _ rfl
      refine ⟨fun s hs => by simpa [hs] using hx, fun hs => ?_⟩
      rw [hx, hs, Option.getD_none]
      exact .pointer (.nil c.pos) hb h2 hlow

/-- A name read from a cursor whose name fits in 255 bytes fits in 255 bytes: each label is added
only when the name stays within them. -/
theorem readNameFrom_size_le {c : NameCursor} {x : String × Nat} (h : readNameFrom p c = .ok x)
    (hc : c.name.utf8ByteSize ≤ maxNameLength) : x.1.utf8ByteSize ≤ maxNameLength := by
  fun_induction readNameFrom p c with
  | case1 c r hstep =>
    subst h
    obtain ⟨-, rfl⟩ := nameStep_eq_done_ok hstep
    exact hc
  | case2 c c' hstep ih =>
    refine ih h ?_
    obtain ⟨b, -, ⟨-, -, -, hsize, rfl⟩ | ⟨-, low, -, -, rfl⟩⟩ := nameStep_eq_next hstep
    · exact hsize
    · exact hc

/-- **Where a name read from any offset ends.** The offset given back lies inside the packet. It
is the one end of the name at `o`: just after the zero byte that ends the labels from `o` when
no pointer is taken, two bytes after the first pointer otherwise. The name is the labels met
along the way, pointers followed, read as UTF-8 and joined by dots, and it fits in 255 bytes. -/
theorem readName_end {o next : Nat} {name : String} (h : readName p o = .ok (name, next)) :
    next ≤ p.size ∧ NameEnd p o next ∧ (∀ n, NameEnd p o n → n = next) ∧
      (∃ ls, NameAt p o ls ∧ name = ".".intercalate (ls.map labelString)) ∧
      name.utf8ByteSize ≤ maxNameLength := by
  have hend : NameEnd p o next := (readNameFrom_end h).2 rfl
  obtain ⟨ls, hls⟩ := nameAt_of_readNameFrom h
  have hname := readNameFrom_of_nameAt hls rfl h
  have hne : ∀ s ∈ ls.map labelString, s ≠ "" := by
    intro s hs
    obtain ⟨l, hl, rfl⟩ := List.mem_map.mp hs
    exact labelString_ne_empty (hls.length_pos l hl)
  refine ⟨hend.le_size, hend, fun n hn => hn.unique hend, ⟨ls, hls, ?_⟩,
    readNameFrom_size_le h (by simp [maxNameLength])⟩
  rw [← foldl_appendLabel hne]
  exact hname

/-- The name at offset 3 of `1 b 0 1 a ⟨0xC0 0⟩` is the label `a` and then, through a pointer to
offset 0, the label `b`: it reads as `a.b` and ends two bytes after the pointer at 5, at the end
of the packet. -/
theorem readName_end_after_pointer :
    let p := packetOf [1, 0x62, 0, 1, 0x61, 0xC0, 0]
    readName p 3 = .ok ("a.b", 7) ∧ (7 ≤ p.size ∧ NameEnd p 3 7 ∧ (∀ n, NameEnd p 3 n → n = 7) ∧
      (∃ ls, NameAt p 3 ls ∧ "a.b" = ".".intercalate (ls.map labelString)) ∧
      "a.b".utf8ByteSize ≤ maxNameLength) := by
  intro p
  have hlabel : nameStep p { pos := 3 } = .next { pos := 5, name := "a" } := by
    rw [nameStep_label (b := 1) rfl (by decide) (by decide) (by decide),
      show labelText p (3 + 1) (1 : UInt8).toNat = "a" by decide]
    rfl
  have hptr : nameStep p { pos := 5, name := "a" } =
      .next { pos := 0, name := "a", stop := some 7, jumps := 1 } := by
    rw [nameStep_pointer (b := 0xC0) rfl (by decide) rfl]
    rfl
  have hrest := readNameFrom_encodeName [[0x62]]
    { pos := 0, name := "a", stop := some 7, jumps := 1 } (p := p) ⟨[1, 0x61, 0xC0, 0], rfl⟩
    (by decide) (by decide)
  have h : readName p 3 = .ok ("a.b", 7) := by
    rw [readName, readNameFrom_of_next hlabel, readNameFrom_of_next hptr, hrest]
    decide
  exact ⟨h, readName_end h⟩

end PoolMonitor.Discovery
