import PoolMonitor.Proofs.QueryAnswer
/-!
# What an address read from an answer says

`parseResponse` gives an address only for a response: its flags have the response bit, its
questions are passed over, and its records are read one after another until the first that
holds an address (type A, class IN with or without the cache-flush bit, four bytes of data)
for the name asked. The owner name of that record is compared as text: its labels are read as
UTF-8, joined with dots, and compared with the host name but for ASCII case.

The owner's labels are therefore the labels of the host name only when each of them is text
without a dot (`PlainLabel`). A label that holds a dot byte spells two labels of the host name
(`parseResponse_dotted_label`), and bytes that are no UTF-8 all read as U+FFFD.

* **`NameAt`**: the labels of the name written at an offset, pointers followed. A name that
  reads has one label sequence (`nameAt_of_readNameFrom`, `NameAt.unique`) and reads as its
  labels joined (`readNameFrom_of_nameAt`).
* **`RecordChain`**: records read one after another; `findAddress_sound` is the search.
* **`Answers`** and **`parseResponse_some_sound`**: everything an address given back says.
-/

namespace PoolMonitor.Discovery

open PoolMonitor.Text.Utf8

/-! ## Names as label sequences -/

/-- The text of a label: its bytes read as UTF-8. -/
def labelString (l : List UInt8) : String := decodeLossy (l.map (·.toNat))

/-- `NameAt p pos ls`: the name written at `pos` in `p` is the label sequence `ls`, compression
pointers followed. -/
inductive NameAt (p : ByteArray) : Nat → List (List UInt8) → Prop where
  | root {pos : Nat} : p[pos]? = some 0 → NameAt p pos []
  | label {pos : Nat} {l : List UInt8} {ls : List (List UInt8)} :
      p[pos]? = some (UInt8.ofNat l.length) → 0 < l.length → l.length < 0x40 →
      BytesAt p (pos + 1) l → NameAt p (pos + 1 + l.length) ls → NameAt p pos (l :: ls)
  | pointer {pos : Nat} {b low : UInt8} {ls : List (List UInt8)} :
      p[pos]? = some b → 0xC0 ≤ b.toNat → p[pos + 1]? = some low →
      NameAt p ((b.toNat % 0x40) * 256 + low.toNat) ls → NameAt p pos ls

variable {p : ByteArray}

theorem toNat_ofNat_length {l : List UInt8} (h : l.length < 0x40) :
    (UInt8.ofNat l.length).toNat = l.length :=
  UInt8.toNat_ofNat_of_lt' (show l.length < 256 by omega)

/-- Every label of a name holds a byte. -/
theorem NameAt.length_pos {pos : Nat} {ls : List (List UInt8)} (h : NameAt p pos ls) :
    ∀ l ∈ ls, 0 < l.length := by
  induction h with
  | root => simp
  | label _ hpos _ _ _ ih =>
    intro l hl
    rcases List.mem_cons.mp hl with rfl | hl
    · exact hpos
    · exact ih l hl
  | pointer _ _ _ _ ih => exact ih

theorem toNat_eq_of_getElem? {pos : Nat} {b b' : UInt8} (h : p[pos]? = some b)
    (h' : p[pos]? = some b') : b.toNat = b'.toNat := by
  rw [Option.some.inj (h.symm.trans h')]

/-- The byte at an offset decides how a name goes on there, so a name has one label
sequence. -/
theorem NameAt.unique {pos : Nat} {ls ls' : List (List UInt8)} (h : NameAt p pos ls)
    (h' : NameAt p pos ls') : ls = ls' := by
  induction h generalizing ls' with
  | root hb =>
    cases h' with
    | root => rfl
    | label hb' hpos hlt =>
      have := toNat_eq_of_getElem? hb hb'
      rw [toNat_ofNat_length hlt, show (0 : UInt8).toNat = 0 from rfl] at this
      omega
    | pointer hb' hc =>
      have := toNat_eq_of_getElem? hb hb'
      rw [show (0 : UInt8).toNat = 0 from rfl] at this
      omega
  | label hb hpos hlt hbytes _ ih =>
    cases h' with
    | root hb' =>
      have := toNat_eq_of_getElem? hb hb'
      rw [toNat_ofNat_length hlt, show (0 : UInt8).toNat = 0 from rfl] at this
      omega
    | label hb' hpos' hlt' hbytes' hrest' =>
      have hlen := toNat_eq_of_getElem? hb hb'
      rw [toNat_ofNat_length hlt, toNat_ofNat_length hlt'] at hlen
      obtain rfl := hbytes.unique hbytes' hlen
      rw [ih hrest']
    | pointer hb' hc =>
      have := toNat_eq_of_getElem? hb hb'
      rw [toNat_ofNat_length hlt] at this
      omega
  | pointer hb hc hlow _ ih =>
    cases h' with
    | root hb' =>
      have := toNat_eq_of_getElem? hb hb'
      rw [show (0 : UInt8).toNat = 0 from rfl] at this
      omega
    | label hb' hpos' hlt' =>
      have := toNat_eq_of_getElem? hb hb'
      rw [toNat_ofNat_length hlt'] at this
      omega
    | pointer hb' hc' hlow' hrest' =>
      obtain rfl := Option.some.inj (hb.symm.trans hb')
      obtain rfl := Option.some.inj (hlow.symm.trans hlow')
      exact ih hrest'

/-- A name read to its end read a zero byte last. -/
theorem nameStep_eq_done_ok {c : NameCursor} {x : String × Nat}
    (h : nameStep p c = .done (.ok x)) :
    p[c.pos]? = some 0 ∧ x = (c.name, c.stop.getD (c.pos + 1)) := by
  cases hb : p[c.pos]? with
  | none => simp [nameStep, hb] at h
  | some b =>
    by_cases h0 : b.toNat = 0
    · have hb0 : b = 0 := UInt8.toNat_inj.mp h0
      subst hb0
      rw [nameStep_end hb] at h
      cases h
      exact ⟨rfl, rfl⟩
    by_cases h1 : b.toNat < 0x40
    · by_cases hfit : c.pos + 1 + b.toNat ≤ p.size
      · rw [nameStep_label hb (by omega) h1 hfit] at h
        split at h <;> cases h
      · simp [nameStep, hb, h0, h1, hfit] at h
    by_cases h2 : 0xC0 ≤ b.toNat
    · cases hlow : p[c.pos + 1]? with
      | none => simp [nameStep, hb, h0, h1, h2, hlow] at h
      | some low =>
        rw [nameStep_pointer hb h2 hlow] at h
        split at h <;> cases h
    · simp [nameStep, hb, h0, h1, h2] at h

/-- **A name that reads has labels**: the cursor's position holds a name. -/
theorem nameAt_of_readNameFrom {c : NameCursor} {x : String × Nat}
    (h : readNameFrom p c = .ok x) : ∃ ls, NameAt p c.pos ls := by
  fun_induction readNameFrom p c with
  | case1 c r hstep =>
    subst h
    exact ⟨[], .root (nameStep_eq_done_ok hstep).1⟩
  | case2 c c' hstep ih =>
    obtain ⟨ls, hls⟩ := ih h
    obtain ⟨b, hb, ⟨h0, h1, hfit, -, rfl⟩ | ⟨h2, low, hlow, -, rfl⟩⟩ := nameStep_eq_next hstep
    · -- a label: its bytes are the next `b` bytes of the packet
      let l := (p.data.extract (c.pos + 1) (c.pos + 1 + b.toNat)).toList
      have hlen : l.length = b.toNat := by simp [l]; omega
      have hbyte : UInt8.ofNat l.length = b := by rw [hlen, UInt8.ofNat_toNat]
      refine ⟨l :: ls, .label (hbyte ▸ hb) (by omega) (by omega) bytesAt_extract ?_⟩
      rw [hlen]
      exact hls
    · exact ⟨ls, .pointer hb h2 hlow hls⟩

/-- **A name reads as its labels**, each read as UTF-8 and joined on with a dot. -/
theorem readNameFrom_of_nameAt {pos : Nat} {ls : List (List UInt8)} (h : NameAt p pos ls)
    {c : NameCursor} (hc : c.pos = pos) {x : String × Nat} (hr : readNameFrom p c = .ok x) :
    x.1 = (ls.map labelString).foldl appendLabel c.name := by
  induction h generalizing c with
  | root hb =>
    rw [readNameFrom_of_done (nameStep_end (hc ▸ hb))] at hr
    cases hr
    rfl
  | @label pos l ls hb hpos hlt hbytes _ ih =>
    have hlen := toNat_ofNat_length hlt
    have hfit : c.pos + 1 + (UInt8.ofNat l.length).toNat ≤ p.size := by
      obtain ⟨b, t, hl⟩ := List.exists_cons_of_length_pos hpos
      have := (hl ▸ hbytes).size_le
      rw [hlen, hc, hl]
      exact this
    have hstep := nameStep_label (hc ▸ hb) (by omega) (by omega) hfit
    rw [hlen, hc, labelText_of_bytesAt hbytes] at hstep
    split at hstep
    · rw [readNameFrom_of_done hstep] at hr
      cases hr
    · rw [readNameFrom_of_next hstep] at hr
      rw [ih (by simp) hr]
      rfl
  | pointer hb hc0 hlow _ ih =>
    have hstep := nameStep_pointer (hc ▸ hb) hc0 (hc ▸ hlow)
    split at hstep
    · rw [readNameFrom_of_done hstep] at hr
      cases hr
    · rw [readNameFrom_of_next hstep] at hr
      rw [ih (by simp) hr]

/-! ## Plain labels and the labels of a host name -/

/-- The labels of a host name: its text without trailing dots, split at the dots; none for
the empty name. -/
def hostLabels (hostname : String) : List (List Char) :=
  if stripTrailingDots hostname = "" then [] else (stripTrailingDots hostname).toList.splitOn '.'

/-- A label that is text without a dot: no byte of it is `.`, and its bytes are the UTF-8 of
their own reading. -/
def PlainLabel (l : List UInt8) : Prop :=
  (46 : UInt8) ∉ l ∧ bytesOf (labelString l) = l.map (·.toNat)

theorem intercalate_ne_empty (s l : String) (ls : List String) (h : l ≠ "") :
    s.intercalate (l :: ls) ≠ "" := by
  cases ls with
  | nil => rwa [String.intercalate_singleton]
  | cons l' ls =>
    rw [String.intercalate_cons_cons]
    intro h0
    have := congrArg String.utf8ByteSize h0
    simp only [String.utf8ByteSize_append, String.utf8ByteSize_empty] at this
    have := utf8ByteSize_pos h
    omega

theorem PlainLabel.dot_not_mem {l : List UInt8} (h : PlainLabel l) :
    '.' ∉ (labelString l).toList := by
  intro hdot
  have h46 : 46 ∈ bytesOf (labelString l) := by
    rw [bytesOf_eq]
    exact List.mem_map.mpr ⟨46, List.mem_flatMap.mpr ⟨'.', hdot, by decide⟩, rfl⟩
  rw [h.2] at h46
  obtain ⟨b, hb, hb46⟩ := List.mem_map.mp h46
  exact h.1 (UInt8.toNat_inj.mp (hb46.trans rfl : b.toNat = (46 : UInt8).toNat) ▸ hb)

theorem PlainLabel.ne_empty {l : List UInt8} (h : PlainLabel l) (hpos : 0 < l.length) :
    labelString l ≠ "" := by
  intro hempty
  have := h.2
  rw [hempty] at this
  have hlen := congrArg List.length this
  simp only [length_bytesOf, String.utf8ByteSize_empty, List.length_map] at hlen
  omega

theorem toLower_eq_dot {c : Char} : c.toLower = '.' ↔ c = '.' := by
  constructor
  · intro h
    unfold Char.toLower at h
    split at h
    · next hup =>
      -- an upper-case letter lowers to a letter, never to a dot
      have h46 : (c.val + ('a'.val - 'A'.val)).toNat = 46 := congrArg (fun d : Char => d.val.toNat) h
      rw [UInt32.toNat_add, show ('a'.val - 'A'.val).toNat = 32 from rfl] at h46
      have hA : 'A'.val.toNat ≤ c.val.toNat := UInt32.le_iff_toNat_le.mp hup.1
      have hZ : c.val.toNat ≤ 'Z'.val.toNat := UInt32.le_iff_toNat_le.mp hup.2
      rw [show 'A'.val.toNat = 65 from rfl] at hA
      rw [show 'Z'.val.toNat = 90 from rfl] at hZ
      simp only [Nat.reducePow] at h46
      omega
    · exact h
  · rintro rfl
    rfl

theorem splitOnP_map {α β : Type} (f : α → β) (P : β → Bool) :
    ∀ l : List α, (l.map f).splitOnP P = (l.splitOnP (P ∘ f)).map (List.map f)
  | [] => rfl
  | x :: xs => by
    rw [List.map_cons, List.splitOnP_cons_eq_if_modifyHead, List.splitOnP_cons_eq_if_modifyHead,
      splitOnP_map f P xs]
    by_cases hx : P (f x) = true
    · simp [hx]
    · -- the first piece takes the character on, on both sides
      have hne := List.splitOnP_ne_nil (P ∘ f) xs
      obtain ⟨first, rest, hfr⟩ := List.exists_cons_of_ne_nil hne
      simp [hx, hfr]

/-- Lowering ASCII case leaves the dots where they are. -/
theorem splitOn_map_toLower (s : List Char) :
    (s.map Char.toLower).splitOn '.' = (s.splitOn '.').map (List.map Char.toLower) := by
  rw [List.splitOn_eq_splitOnP, List.splitOn_eq_splitOnP, splitOnP_map]
  congr 2
  funext c
  simp [toLower_eq_dot]

/-- **Plain labels that read as the host name are its labels**, but for ASCII case. -/
theorem labels_of_sameName {ls : List (List UInt8)} {hostname : String}
    (hpos : ∀ l ∈ ls, 0 < l.length) (hplain : ∀ l ∈ ls, PlainLabel l)
    (hsame : sameName ((ls.map labelString).foldl appendLabel "") (stripTrailingDots hostname)) :
    ls.map (fun l => (labelString l).toList.map Char.toLower) =
      (hostLabels hostname).map (List.map Char.toLower) := by
  have hne : ∀ s ∈ ls.map labelString, s ≠ "" := by
    intro s hs
    obtain ⟨l, hl, rfl⟩ := List.mem_map.mp hs
    exact (hplain l hl).ne_empty (hpos l hl)
  have hlow : (".".intercalate (ls.map labelString)).toList.map Char.toLower =
      (stripTrailingDots hostname).toList.map Char.toLower := by
    rw [← foldl_appendLabel hne]
    simpa [sameName, funext asciiFold_eq_toLower] using hsame
  unfold hostLabels
  cases ls with
  | nil =>
    -- the root name is the empty host name
    have : (stripTrailingDots hostname).toList = [] := by simpa using hlow.symm
    simp [String.toList_eq_nil_iff.mp this]
  | cons l ls =>
    have hdots : ∀ s ∈ (l :: ls).map labelString, '.' ∉ s.toList := by
      intro s hs
      obtain ⟨l', hl', rfl⟩ := List.mem_map.mp hs
      exact (hplain l' hl').dot_not_mem
    have hhost : stripTrailingDots hostname ≠ "" := by
      intro h0
      rw [h0, String.toList_empty, List.map_nil, List.map_eq_nil_iff, String.toList_eq_nil_iff,
        List.map_cons] at hlow
      exact intercalate_ne_empty _ _ _ (hne _ (List.mem_cons_self ..)) hlow
    rw [if_neg hhost]
    calc (l :: ls).map (fun l => (labelString l).toList.map Char.toLower)
        = (((l :: ls).map labelString).map String.toList).map (List.map Char.toLower) := by
          simp
      _ = ((['.'].intercalate (((l :: ls).map labelString).map String.toList)).splitOn '.').map
            (List.map Char.toLower) := by
          rw [List.splitOn_intercalate '.' (by simpa using hdots) (by simp)]
      _ = ((".".intercalate ((l :: ls).map labelString)).toList.map Char.toLower).splitOn '.' := by
          rw [splitOn_map_toLower, String.toList_intercalate]
          rfl
      _ = ((stripTrailingDots hostname).toList.splitOn '.').map (List.map Char.toLower) := by
          rw [hlow, splitOn_map_toLower]

/-! ## Records read one after another -/

/-- `RecordChain p pos rs last`: the records `rs`, each with its offset, are read one after
another from `pos`, and the next would be read at `last`. -/
inductive RecordChain (p : ByteArray) : Nat → List (Nat × Record p) → Nat → Prop where
  | nil (pos : Nat) : RecordChain p pos [] pos
  | cons {pos last : Nat} {r : Record p} {rs : List (Nat × Record p)} :
      readRecord p pos = .ok r → RecordChain p r.next rs last →
      RecordChain p pos ((pos, r) :: rs) last

/-- **The search finds the first record holding the address**, within the records it may
read. -/
theorem findAddress_sound {target : String} {a : Ipv4} :
    ∀ {n pos : Nat}, findAddress p target n pos = .ok (some a) →
      ∃ (rs : List (Nat × Record p)) (last : Nat) (r : Record p),
        RecordChain p pos rs last ∧ rs.length < n ∧ (∀ x ∈ rs, ¬x.2.IsAddressOf target) ∧
        readRecord p last = .ok r ∧ ∃ h : r.IsAddressOf target, r.address h.2.2.1 = a
  | 0, _, h => by simp [findAddress] at h
  | n + 1, pos, h => by
    obtain ⟨r, hr, h⟩ := bind_eq_ok.mp h
    split at h
    · next hmatch =>
      cases h
      exact ⟨[], pos, r, .nil pos, by simp, by simp, hr, hmatch, rfl⟩
    · next hmiss =>
      obtain ⟨rs, last, r', hchain, hlen, hfirst, hr', hm⟩ := findAddress_sound h
      refine ⟨(pos, r) :: rs, last, r', .cons hr hchain, by simp; omega, ?_, hr', hm⟩
      intro x hx
      rcases List.mem_cons.mp hx with rfl | hx
      · exact hmiss
      · exact hfirst x hx

/-- A record read at an offset has the name read there as its owner. -/
theorem readRecord_name {pos : Nat} {r : Record p} (h : readRecord p pos = .ok r) :
    ∃ next, readName p pos = .ok (r.name, next) := by
  obtain ⟨owner, howner, h⟩ := bind_eq_ok.mp h
  obtain ⟨_, -, h⟩ := bind_eq_ok.mp h
  obtain ⟨_, -, h⟩ := bind_eq_ok.mp h
  obtain ⟨_, -, h⟩ := bind_eq_ok.mp h
  split at h
  · cases h
    exact ⟨owner.2, howner⟩
  · cases h

/-! ## An address given back -/

/-- An address read from a response had a header read in full, its questions passed over and
then a search of the records it counts that found the address. -/
theorem parseResponse_eq_some {hostname : String} {a : Ipv4}
    (h : parseResponse p hostname = .ok (some a)) :
    ∃ flags questions an ns ar start,
      u16At p 2 = .ok flags ∧ flags / responseFlag % 2 = 1 ∧
      u16At p 4 = .ok questions ∧ u16At p 6 = .ok an ∧ u16At p 8 = .ok ns ∧
      u16At p 10 = .ok ar ∧ skipQuestions p questions headerLength = .ok start ∧
      findAddress p (stripTrailingDots hostname) (an + ns + ar) start = .ok (some a) := by
  unfold parseResponse at h
  split at h
  · cases h
  obtain ⟨flags, hflags, h⟩ := bind_eq_ok.mp h
  split at h
  · cases h
  next hqr =>
  obtain ⟨questions, hq, h⟩ := bind_eq_ok.mp h
  obtain ⟨an, han, h⟩ := bind_eq_ok.mp h
  obtain ⟨ns, hns, h⟩ := bind_eq_ok.mp h
  obtain ⟨ar, har, h⟩ := bind_eq_ok.mp h
  obtain ⟨start, hstart, h⟩ := bind_eq_ok.mp h
  refine ⟨flags, questions, an, ns, ar, start, hflags, ?_, hq, han, hns, har, hstart, h⟩
  simp only [beq_iff_eq] at hqr
  omega

/-- What an address `a` given back for `hostname` says of the packet `p`: it is a response, its
questions are passed over, and its records, read one after another, reach within the counted
ones a first record holding the address of the name asked, of type A and class IN with `a` as
its data. The owner name of that record has labels, which read as its name; when they are
plain text they are the labels of the host name but for ASCII case. -/
def Answers (p : ByteArray) (hostname : String) (a : Ipv4) : Prop :=
  ∃ flags questions an ns ar start,
    u16At p 2 = .ok flags ∧ flags / responseFlag % 2 = 1 ∧
    u16At p 4 = .ok questions ∧ u16At p 6 = .ok an ∧ u16At p 8 = .ok ns ∧ u16At p 10 = .ok ar ∧
    skipQuestions p questions headerLength = .ok start ∧
    ∃ (rs : List (Nat × Record p)) (last : Nat) (r : Record p),
      RecordChain p start rs last ∧ rs.length < an + ns + ar ∧
      (∀ x ∈ rs, ¬x.2.IsAddressOf (stripTrailingDots hostname)) ∧
      readRecord p last = .ok r ∧ r.rtype = typeA ∧ r.rclass % 0x8000 = classIn ∧
      (∃ h : r.rdlen = 4, r.address h = a) ∧
      sameName r.name (stripTrailingDots hostname) ∧
      ∃ ls, NameAt p last ls ∧ r.name = (ls.map labelString).foldl appendLabel "" ∧
        ((∀ l ∈ ls, PlainLabel l) →
          ls.map (fun l => (labelString l).toList.map Char.toLower) =
            (hostLabels hostname).map (List.map Char.toLower))

/-- **An address read from a response is an answer for the host name**: every packet and host
name for which `parseResponse` gives an address meet `Answers`. -/
theorem parseResponse_some_sound {hostname : String} {a : Ipv4}
    (h : parseResponse p hostname = .ok (some a)) : Answers p hostname a := by
  obtain ⟨flags, questions, an, ns, ar, start, hflags, hqr, hq, han, hns, har, hstart, hfind⟩ :=
    parseResponse_eq_some h
  obtain ⟨rs, last, r, hchain, hlen, hfirst, hr, hmatch, haddr⟩ := findAddress_sound hfind
  obtain ⟨htype, hclass, hrdlen, hsame⟩ := hmatch
  -- the owner name's labels, and the name they read as
  obtain ⟨next, howner⟩ := readRecord_name hr
  obtain ⟨ls, hls⟩ := nameAt_of_readNameFrom howner
  have hname : r.name = (ls.map labelString).foldl appendLabel "" :=
    readNameFrom_of_nameAt hls rfl howner
  refine ⟨flags, questions, an, ns, ar, start, hflags, hqr, hq, han, hns, har, hstart,
    rs, last, r, hchain, hlen, hfirst, hr, htype, hclass, ⟨hrdlen, haddr⟩, hsame,
    ls, hls, hname, fun hplain => ?_⟩
  exact labels_of_sameName hls.length_pos hplain (hname ▸ hsame)

theorem parseResponse_some_sound_cache_flush :
    Answers (packetOf (answerPacket 0 "pentair.local" 0x8400 0x8001 120 ⟨192, 168, 1, 20⟩))
      "pentair.local" ⟨192, 168, 1, 20⟩ :=
  parseResponse_some_sound (parseResponse_of_answerBytes
    (bytesAt_answerPacket 0 "pentair.local" 0x8400 0x8001 120 ⟨192, 168, 1, 20⟩)
    (by decide) (by decide) (by decide) (by decide) (by decide))

/-- A record whose owner is the one label `a.b`, holding a dot byte, answers for the host name
`a.b` of the two labels `a` and `b`. -/
theorem parseResponse_dotted_label :
    let p := packetOf [0, 0, 0x80, 0, 0, 0, 0, 1, 0, 0, 0, 0, 3, 0x61, 0x2E, 0x62, 0, 0, 1, 0, 1,
      0, 0, 0, 0x78, 0, 4, 10, 0, 0, 9]
    parseResponse p "a.b" = .ok (some ⟨10, 0, 0, 9⟩) ∧ NameAt p 12 [[0x61, 0x2E, 0x62]] ∧
      hostLabels "a.b" = [['a'], ['b']] := by
  intro p
  have hu : ∀ i n, BytesAt p i ((be16 n).map Nat.toUInt8) → n < 0x10000 → u16At p i = .ok n :=
    fun _ _ h hn => u16At_be16 h hn
  -- the owner name, written at offset 12 with no question before it
  have hname : BytesAt p 12 ((encodeName [[0x61, 0x2E, 0x62]]).map Nat.toUInt8) := ⟨_, rfl⟩
  have hspelled : spelled "" [[0x61, 0x2E, 0x62]] = "a.b" := by decide
  have howner : readName p 12 = .ok ("a.b", 17) := by
    have := readNameFrom_encodeName [[0x61, 0x2E, 0x62]] { pos := 12 } hname (by decide)
      (by rw [hspelled]; decide)
    rwa [hspelled] at this
  have hrec := readRecord_eq howner (hu 17 1 ⟨_, rfl⟩ (by decide)) (hu 19 1 ⟨_, rfl⟩ (by decide))
    (hu 25 4 ⟨_, rfl⟩ (by decide)) (by decide)
  have hmatch : Record.IsAddressOf (⟨"a.b", 1, 1, 17 + 10, 4, by decide⟩ : Record p)
      (stripTrailingDots "a.b") :=
    ⟨rfl, rfl, rfl, by decide⟩
  refine ⟨?_, .label rfl (by decide) (by decide) ⟨_, rfl⟩ (.root rfl), by decide⟩
  rw [parseResponse_eq_findAddress (by decide) (hu 2 0x8000 ⟨_, rfl⟩ (by decide)) (by decide)
    (hu 4 0 ⟨_, rfl⟩ (by decide)) (hu 6 1 ⟨_, rfl⟩ (by decide)) (hu 8 0 ⟨_, rfl⟩ (by decide))
    (hu 10 0 ⟨_, rfl⟩ (by decide)) (rfl : skipQuestions p 0 headerLength = .ok 12),
    show 1 + 0 + 0 = 0 + 1 from rfl, show headerLength = 12 from rfl,
    findAddress_of_isAddressOf hrec hmatch]
  rfl

end PoolMonitor.Discovery
