import Mathlib.Data.List.Basic
import PoolMonitor.Proofs.NameWalk
/-!
# Answers to a query read back

A query for a host, answered the way a responder answers it (the flags of a response, one
answer record whose owner name points back at the question's name, of type A and class IN,
with the address as its data), reads back as that address. This holds for every host name
whose labels can be written: non-empty, free of dots, at most 63 bytes each and 255 bytes
together. The name may be asked for in any ASCII case, with or without trailing dots. The
query itself is no response and gives no address.

* **`decodeLossy_bytesOf`**: text written as UTF-8 reads back as itself, one character at a
  time (`decodeFrom_utf8EncodeChar`).
* **`queryLabels_of_labels`**: a query asks for exactly the labels of such a host name, and
  **`foldl_appendLabel`** joins them back with dots.
* **`BytesAt`**: bytes standing in a packet at an offset. **`readNameFrom_encodeName`** reads
  written labels back as the name they spell.
* **`parseResponse_answer`**: the whole answer.
-/

namespace PoolMonitor.Text.Utf8

/-! ## Valid UTF-8 reads back -/

theorem decodeFrom_ascii {b : Nat} (h : b < 0x80) (rest : List Nat) :
    decodeFrom .idle (b :: rest) = Char.ofNat b :: decodeFrom .idle rest := by
  simp [decodeFrom, feed, start, h]

theorem decodeFrom_lead {b owed lo hi : Nat} (h : 0x80 ≤ b) (hl : lead b = some (owed, lo, hi))
    (rest : List Nat) :
    decodeFrom .idle (b :: rest) =
      decodeFrom (.within (b % Nat.pow 2 (6 - owed)) owed lo hi) rest := by
  simp [decodeFrom, feed, start, Nat.not_lt.mpr h, hl]

theorem decodeFrom_within {bits owed lo hi b : Nat} (h : lo ≤ b ∧ b ≤ hi) (ho : 2 ≤ owed)
    (rest : List Nat) :
    decodeFrom (.within bits owed lo hi) (b :: rest) =
      decodeFrom (.within (bits * 64 + (b - 0x80)) (owed - 1) 0x80 0xBF) rest := by
  simp [decodeFrom, feed, h, show ¬owed ≤ 1 by omega]

theorem decodeFrom_last {bits lo hi b : Nat} (h : lo ≤ b ∧ b ≤ hi) (rest : List Nat) :
    decodeFrom (.within bits 1 lo hi) (b :: rest) =
      Char.ofNat (bits * 64 + (b - 0x80)) :: decodeFrom .idle rest := by
  simp [decodeFrom, feed, h]

/-- The lead byte of a three-byte form owes two bytes and admits the one after it. -/
theorem lead_three {v : Nat} (hlo : 0x800 ≤ v) (hhi : v ≤ 0xFFFF) (hs : v < 0xD800 ∨ 0xDFFF < v) :
    ∃ lo hi, lead (v / 4096 % 16 + 0xE0) = some (2, lo, hi) ∧
      lo ≤ v / 64 % 64 + 0x80 ∧ v / 64 % 64 + 0x80 ≤ hi := by
  unfold lead
  by_cases h1 : v < 0x1000
  · exact ⟨0xA0, 0xBF, by rw [if_neg (by omega), if_pos (by omega)], by omega, by omega⟩
  by_cases h2 : v < 0xD000
  · exact ⟨0x80, 0xBF, by rw [if_neg (by omega), if_neg (by omega), if_pos (by omega)],
      by omega, by omega⟩
  by_cases h3 : v < 0xE000
  · -- from 0xD000 the second byte stops short of the surrogates
    exact ⟨0x80, 0x9F, by rw [if_neg (by omega), if_neg (by omega), if_neg (by omega),
      if_pos (by omega)], by omega, by omega⟩
  · exact ⟨0x80, 0xBF, by rw [if_neg (by omega), if_neg (by omega), if_pos (by omega)],
      by omega, by omega⟩

/-- The lead byte of a four-byte form owes three bytes and admits the one after it. -/
theorem lead_four {v : Nat} (hlo : 0x10000 ≤ v) (hhi : v < 0x110000) :
    ∃ lo hi, lead (v / 262144 % 8 + 0xF0) = some (3, lo, hi) ∧
      lo ≤ v / 4096 % 64 + 0x80 ∧ v / 4096 % 64 + 0x80 ≤ hi := by
  unfold lead
  by_cases h1 : v < 0x40000
  · exact ⟨0x90, 0xBF, by rw [if_neg (by omega), if_neg (by omega), if_neg (by omega),
      if_neg (by omega), if_pos (by omega)], by omega, by omega⟩
  by_cases h2 : v < 0x100000
  · exact ⟨0x80, 0xBF, by rw [if_neg (by omega), if_neg (by omega), if_neg (by omega),
      if_neg (by omega), if_neg (by omega), if_pos (by omega)], by omega, by omega⟩
  · -- from 0x100000 the second byte stops short of 0x110000
    exact ⟨0x80, 0x8F, by rw [if_neg (by omega), if_neg (by omega), if_neg (by omega),
      if_neg (by omega), if_neg (by omega), if_neg (by omega), if_pos (by omega)],
      by omega, by omega⟩

/-- **One character written as UTF-8 reads back as itself**, whatever follows it. -/
theorem decodeFrom_utf8EncodeChar (c : Char) (rest : List Nat) :
    decodeFrom .idle ((String.utf8EncodeChar c).map (·.toNat) ++ rest) =
      c :: decodeFrom .idle rest := by
  have hvalid : c.val.toNat < 0xD800 ∨ (0xDFFF < c.val.toNat ∧ c.val.toNat < 0x110000) := c.valid
  have hc : Char.ofNat c.val.toNat = c := Char.ofNat_toNat c
  have hbyte : ∀ n, n < 256 → (UInt8.ofNat n).toNat = n := fun _ h => UInt8.toNat_ofNat_of_lt' h
  unfold String.utf8EncodeChar
  generalize c.val.toNat = v at hvalid hc ⊢
  dsimp only
  -- one form per range of the value, as the encoder chooses it
  split
  · simp only [List.map_cons, List.map_nil, List.cons_append, List.nil_append]
    rw [hbyte _ (by omega), decodeFrom_ascii (by omega), hc]
  split
  · simp only [List.map_cons, List.map_nil, List.cons_append, List.nil_append]
    rw [hbyte _ (by omega), hbyte _ (by omega)]
    have hl : lead (v / 64 % 32 + 0xC0) = some (1, 0x80, 0xBF) := by
      unfold lead
      rw [if_pos (by omega)]
    rw [decodeFrom_lead (by omega) hl, decodeFrom_last (by omega)]
    have : (v / 64 % 32 + 0xC0) % Nat.pow 2 (6 - 1) * 64 + (v % 64 + 0x80 - 0x80) = v := by
      simp only [Nat.pow_eq, Nat.reducePow, Nat.reduceSub]
      omega
    rw [this, hc]
  split
  · simp only [List.map_cons, List.map_nil, List.cons_append, List.nil_append]
    rw [hbyte _ (by omega), hbyte _ (by omega), hbyte _ (by omega)]
    obtain ⟨lo, hi, hl, hlo, hhi⟩ := @lead_three v (by omega) (by omega) (by omega)
    rw [decodeFrom_lead (by omega) hl, decodeFrom_within ⟨hlo, hhi⟩ (Nat.le_refl _),
      decodeFrom_last (by omega)]
    have : ((v / 4096 % 16 + 0xE0) % Nat.pow 2 (6 - 2) * 64 + (v / 64 % 64 + 0x80 - 0x80)) * 64 +
        (v % 64 + 0x80 - 0x80) = v := by
      simp only [Nat.pow_eq, Nat.reducePow, Nat.reduceSub]
      omega
    rw [this, hc]
  · simp only [List.map_cons, List.map_nil, List.cons_append, List.nil_append]
    rw [hbyte _ (by omega), hbyte _ (by omega), hbyte _ (by omega), hbyte _ (by omega)]
    obtain ⟨lo, hi, hl, hlo, hhi⟩ := @lead_four v (by omega) (by omega)
    rw [decodeFrom_lead (by omega) hl, decodeFrom_within ⟨hlo, hhi⟩ (by omega),
      decodeFrom_within (show 0x80 ≤ v / 64 % 64 + 0x80 ∧ v / 64 % 64 + 0x80 ≤ 0xBF by omega)
        (Nat.le_refl _), decodeFrom_last (by omega)]
    have : (((v / 262144 % 8 + 0xF0) % Nat.pow 2 (6 - 3) * 64 + (v / 4096 % 64 + 0x80 - 0x80)) *
        64 + (v / 64 % 64 + 0x80 - 0x80)) * 64 + (v % 64 + 0x80 - 0x80) = v := by
      simp only [Nat.pow_eq, Nat.reducePow, Nat.reduceSub]
      omega
    rw [this, hc]

theorem decodeFrom_utf8Encode (l : List Char) :
    decodeFrom .idle ((l.flatMap String.utf8EncodeChar).map (·.toNat)) = l := by
  induction l with
  | nil => rfl
  | cons c l ih => rw [List.flatMap_cons, List.map_append, decodeFrom_utf8EncodeChar, ih]

theorem bytesOf_eq (s : String) :
    bytesOf s = (s.toList.flatMap String.utf8EncodeChar).map (·.toNat) := by
  rw [bytesOf, String.toUTF8_eq_toByteArray, ← String.utf8Encode_toList, List.utf8Encode,
    List.toList_data_toByteArray]

/-- **Text written as UTF-8 reads back as itself.** -/
theorem decodeLossy_bytesOf (s : String) : decodeLossy (bytesOf s) = s := by
  rw [decodeLossy, bytesOf_eq, decodeFrom_utf8Encode, String.ofList_toList]

theorem length_bytesOf (s : String) : (bytesOf s).length = s.utf8ByteSize := by
  rw [bytesOf, List.length_map, Array.length_toList, ByteArray.size_data,
    String.toUTF8_eq_toByteArray, String.size_toByteArray]

theorem bytesOf_lt (s : String) : ∀ b ∈ bytesOf s, b < 256 := by
  intro b hb
  obtain ⟨u, -, rfl⟩ := List.mem_map.mp hb
  exact u.toNat_lt

end PoolMonitor.Text.Utf8

namespace PoolMonitor.Discovery

open PoolMonitor.Text.Utf8

/-! ## The labels of a host name -/

/-- Labels that can be written: each of 1 to 63 bytes. -/
def Writable (ls : List (List Nat)) : Prop :=
  ∀ l ∈ ls, 0 < l.length ∧ l.length < 0x40 ∧ ∀ b ∈ l, b < 256

instance (ls : List (List Nat)) : Decidable (Writable ls) :=
  inferInstanceAs (Decidable (∀ l ∈ ls, _))

/-- The labels of a host name whose labels are non-empty, free of dots and at most 63 bytes are
those labels, written as UTF-8. -/
theorem queryLabels_of_labels {hostname : String} {labels : List String}
    (hlabels : ∀ l ∈ labels, l ≠ "" ∧ '.' ∉ l.toList ∧ l.utf8ByteSize ≤ maxLabel)
    (hhost : stripTrailingDots hostname = ".".intercalate labels) :
    queryLabels hostname = labels.map bytesOf := by
  unfold queryLabels
  rw [hhost, String.toList_intercalate]
  cases labels with
  | nil => rfl
  | cons l rest =>
    -- a split at the dots gives back the labels, since none holds a dot
    rw [show (".").toList = ['.'] from rfl, List.splitOn_intercalate '.'
      (by simpa using fun l hl => (hlabels l hl).2.1) (by simp), List.filterMap_map]
    apply List.filterMap_eq_map_iff_forall_eq_some.mpr
    intro l' hl'
    obtain ⟨hne, -, hsize⟩ := hlabels l' hl'
    have hlist : l'.toList ≠ [] := by simpa using hne
    simp only [Function.comp, List.isEmpty_iff, hlist, if_false, String.ofList_toList]
    rw [List.take_of_length_le (by rw [length_bytesOf]; exact hsize)]

/-- Non-empty labels joined one by one, a dot before each but the first, spell the dotted
name. -/
theorem foldl_appendLabel {labels : List String} (hne : ∀ l ∈ labels, l ≠ "") :
    labels.foldl appendLabel "" = ".".intercalate labels := by
  -- once the name is non-empty, each label comes after a dot
  have after : ∀ (rest : List String) (acc l : String), acc ≠ "" →
      (l :: rest).foldl appendLabel acc = acc ++ "." ++ ".".intercalate (l :: rest) := by
    intro rest
    induction rest with
    | nil =>
      intro acc l hacc
      simp [appendLabel, String.isEmpty_iff, hacc]
    | cons l' rest ih =>
      intro acc l hacc
      rw [List.foldl_cons, ih _ _ (by simp [appendLabel, String.isEmpty_iff, hacc]),
        String.intercalate_cons_cons]
      simp [appendLabel, String.isEmpty_iff, hacc, String.append_assoc]
  match labels, hne with
  | [], _ => rfl
  | [l], _ => simp [appendLabel, String.isEmpty_iff]
  | l :: l' :: rest, hne =>
    have hl : l ≠ "" := hne l (by simp)
    rw [List.foldl_cons, show appendLabel "" l = l by simp [appendLabel, String.isEmpty_iff],
      after _ _ _ hl, String.intercalate_cons_cons]

/-- Folding ASCII case is lowering it. -/
theorem asciiFold_eq_toLower (c : Char) : asciiFold c = c.toLower := by
  unfold asciiFold Char.toLower
  by_cases h : 'A' ≤ c ∧ c ≤ 'Z'
  · rw [if_pos h, dif_pos ⟨h.1, h.2⟩]
    have hc : c.toNat ≤ 90 := by
      have := h.2
      simp only [Char.le_def, UInt32.le_iff_toNat_le, Char.toNat_val] at this
      exact this
    apply Char.toNat_inj.mp
    have hvalid : (c.toNat + 32).isValidChar := Or.inl (by omega)
    rw [Char.ofNat, dif_pos hvalid]
    show c.toNat + 32 = (c.val + ('a'.val - 'A'.val)).toNat
    rw [UInt32.toNat_add]
    simp
    omega
  · rw [if_neg h, dif_neg (show ¬(c.val ≥ 'A'.val ∧ c.val ≤ 'Z'.val) from h)]

/-- Names equal but for ASCII case are the same name. -/
theorem sameName_of_toLower {a b : String}
    (h : a.toList.map Char.toLower = b.toList.map Char.toLower) : sameName a b = true := by
  have hfold : asciiFold = Char.toLower := funext asciiFold_eq_toLower
  simp [sameName, hfold, h]

/-! ## Bytes in a packet -/

/-- The bytes `bs` stand in packet `p` from offset `pos` on. -/
def BytesAt (p : ByteArray) (pos : Nat) (bs : List UInt8) : Prop :=
  ∃ post, p.data.toList.drop pos = bs ++ post

/-- The packet holding the bytes of a list. -/
def packetOf (bytes : List Nat) : ByteArray := ⟨(bytes.map Nat.toUInt8).toArray⟩

theorem bytesAt_packetOf (bytes : List Nat) :
    BytesAt (packetOf bytes) 0 (bytes.map Nat.toUInt8) :=
  ⟨[], by simp [packetOf]⟩

theorem getElem?_eq_toList (p : ByteArray) (i : Nat) : p[i]? = p.data.toList[i]? := by
  by_cases h : i < p.size
  · rw [getElem?_pos p i h, List.getElem?_eq_getElem (by simpa using h)]
    rfl
  · rw [getElem?_neg p i h, List.getElem?_eq_none (by simpa using h)]

namespace BytesAt

variable {p : ByteArray} {pos : Nat} {xs ys : List UInt8} {b : UInt8}

theorem left (h : BytesAt p pos (xs ++ ys)) : BytesAt p pos xs := by
  obtain ⟨post, h⟩ := h
  exact ⟨ys ++ post, by rw [h, List.append_assoc]⟩

theorem right (h : BytesAt p pos (xs ++ ys)) : BytesAt p (pos + xs.length) ys := by
  obtain ⟨post, h⟩ := h
  refine ⟨post, ?_⟩
  rw [← List.drop_drop, h, List.append_assoc, List.drop_left]

theorem getElem? (h : BytesAt p pos (b :: xs)) : p[pos]? = some b := by
  obtain ⟨post, h⟩ := h
  rw [getElem?_eq_toList, ← Nat.add_zero pos, ← List.getElem?_drop, h]
  rfl

theorem getElem?_add {i : Nat} (h : BytesAt p pos xs) (hi : i < xs.length) :
    p[pos + i]? = xs[i]? := by
  obtain ⟨post, h⟩ := h
  rw [getElem?_eq_toList, ← List.getElem?_drop, h, List.getElem?_append_left hi]

theorem size_le (h : BytesAt p pos (b :: xs)) : pos + (b :: xs).length ≤ p.size := by
  obtain ⟨post, h⟩ := h
  have hlen := congrArg List.length h
  simp only [List.length_drop, List.length_append, Array.length_toList, ByteArray.size_data]
    at hlen
  simp only [List.length_cons] at hlen ⊢
  omega

theorem extract (h : BytesAt p pos xs) : (p.data.extract pos (pos + xs.length)).toList = xs := by
  obtain ⟨post, h⟩ := h
  rw [Array.toList_extract, List.extract_eq_take_drop, h, Nat.add_sub_cancel_left,
    List.take_left]

theorem congr_pos {pos' : Nat} (h : BytesAt p pos xs) (hpos : pos = pos') : BytesAt p pos' xs :=
  hpos ▸ h

/-- Bytes of one length at one offset are the same bytes. -/
theorem unique (h : BytesAt p pos xs) (h' : BytesAt p pos ys) (hlen : xs.length = ys.length) :
    xs = ys := by
  obtain ⟨post, h⟩ := h
  obtain ⟨post', h'⟩ := h'
  exact (List.append_inj (h.symm.trans h') hlen).1

theorem tail (h : BytesAt p pos (b :: xs)) : BytesAt p (pos + 1) xs :=
  @right p pos [b] xs h

end BytesAt

/-- The bytes of a packet between two offsets inside it stand there. -/
theorem bytesAt_extract {p : ByteArray} {pos n : Nat} :
    BytesAt p pos (p.data.extract pos (pos + n)).toList := by
  refine ⟨(p.data.toList.drop pos).drop n, ?_⟩
  rw [Array.toList_extract, List.extract_eq_take_drop, Nat.add_sub_cancel_left,
    List.take_append_drop]

theorem bytesAt_append_iff {p : ByteArray} {pos : Nat} {xs ys : List UInt8} :
    BytesAt p pos (xs ++ ys) ↔ BytesAt p pos xs ∧ BytesAt p (pos + xs.length) ys := by
  constructor
  · intro h
    exact ⟨h.left, h.right⟩
  · rintro ⟨⟨post, hx⟩, ⟨post', hy⟩⟩
    refine ⟨post', ?_⟩
    -- what follows `xs` is what the second fact says stands after it
    have hpost : post = ys ++ post' := by
      rw [← List.drop_drop, hx, List.drop_left] at hy
      exact hy
    rw [hx, hpost, List.append_assoc]

theorem u16At_of_bytesAt {p : ByteArray} {i : Nat} {b₀ b₁ : UInt8} (h : BytesAt p i [b₀, b₁]) :
    u16At p i = .ok (b₀.toNat * 256 + b₁.toNat) := by
  have hsize := h.size_le
  obtain ⟨_, h₀⟩ := getElem?_eq_some_iff.mp h.getElem?
  obtain ⟨_, h₁⟩ := getElem?_eq_some_iff.mp h.tail.getElem?
  unfold u16At
  rw [dif_pos (by simpa using hsize), h₀, h₁]

/-- Four bytes read as the address they spell. -/
theorem addressAt_of_bytesAt {p : ByteArray} {i : Nat} {a : Ipv4}
    (h : BytesAt p i [a.a, a.b, a.c, a.d]) (hfit : i + 4 ≤ p.size) : addressAt p i hfit = a := by
  have hbyte : ∀ k (hk : k < 4), p[i + k]? = [a.a, a.b, a.c, a.d][k]? := fun k hk => h.getElem?_add hk
  have h₀ := hbyte 0 (by decide)
  have h₁ := hbyte 1 (by decide)
  have h₂ := hbyte 2 (by decide)
  have h₃ := hbyte 3 (by decide)
  simp only [Nat.add_zero, List.getElem?_cons_zero, List.getElem?_cons_succ, getElem?_eq_some_iff]
    at h₀ h₁ h₂ h₃
  unfold addressAt
  rw [h₀.2, h₁.2, h₂.2, h₃.2]

/-- The two bytes of a 16-bit number read back as it. -/
theorem u16At_be16 {p : ByteArray} {i n : Nat} (h : BytesAt p i ((be16 n).map Nat.toUInt8))
    (hn : n < 0x10000) : u16At p i = .ok n := by
  have h₀ : ((n / 256 % 256).toUInt8).toNat = n / 256 % 256 :=
    UInt8.toNat_ofNat_of_lt' (Nat.mod_lt _ (by decide))
  have h₁ : ((n % 256).toUInt8).toNat = n % 256 := UInt8.toNat_ofNat_of_lt' (Nat.mod_lt _ (by decide))
  rw [u16At_of_bytesAt h, h₀, h₁]
  congr 1
  omega

/-! ## Reading written labels -/

/-- The name that labels spell once read after `name`: each label decoded and joined on. -/
def spelled (name : String) (ls : List (List Nat)) : String :=
  ls.foldl (fun n l => appendLabel n (decodeLossy l)) name

@[simp] theorem spelled_nil (name : String) : spelled name [] = name := rfl

@[simp] theorem spelled_cons (name : String) (l : List Nat) (ls : List (List Nat)) :
    spelled name (l :: ls) = spelled (appendLabel name (decodeLossy l)) ls := rfl

/-- A name only grows as labels are joined on. -/
theorem size_le_spelled (name : String) (ls : List (List Nat)) :
    name.utf8ByteSize ≤ (spelled name ls).utf8ByteSize := by
  induction ls generalizing name with
  | nil => exact Nat.le_refl _
  | cons l ls ih => exact Nat.le_trans (appendLabel_size_le _ _) (ih _)

/-- The bytes of a label in a packet read as the label. -/
theorem labelText_of_bytesAt {p : ByteArray} {pos : Nat} {bs : List UInt8} (h : BytesAt p pos bs) :
    labelText p pos bs.length = decodeLossy (bs.map (·.toNat)) := by
  rw [labelText, h.extract]

theorem map_toNat_toUInt8 {l : List Nat} (hl : ∀ b ∈ l, b < 256) :
    (l.map Nat.toUInt8).map (·.toNat) = l := by
  rw [List.map_map]
  conv => rhs; rw [← List.map_id l]
  apply List.map_congr_left
  intro b hb
  exact UInt8.toNat_ofNat_of_lt' (hl b hb)

/-- Labels written from a cursor read back as the name they spell, a dot between two labels,
ending where the first pointer taken says, or after the zero byte. -/
theorem readNameFrom_encodeName {p : ByteArray} (ls : List (List Nat)) (c : NameCursor)
    (hat : BytesAt p c.pos ((encodeName ls).map Nat.toUInt8)) (hw : Writable ls)
    (hsize : (spelled c.name ls).utf8ByteSize ≤ maxNameLength) :
    readNameFrom p c = .ok (spelled c.name ls, c.stop.getD (c.pos + (encodeName ls).length)) := by
  induction ls generalizing c with
  | nil =>
    rw [readNameFrom_of_done (nameStep_end hat.getElem?)]
    rfl
  | cons l rest ih =>
    obtain ⟨hpos, hlt, hbytes⟩ := hw l (by simp)
    simp only [encodeName, List.map_cons, List.map_append] at hat
    have hlen : (l.length.toUInt8).toNat = l.length := UInt8.toNat_ofNat_of_lt'
      (show l.length < 256 by omega)
    have hfit : c.pos + 1 + l.length ≤ p.size := by
      have := hat.left.size_le
      simp only [List.length_cons, List.length_map] at this
      omega
    have htext : labelText p (c.pos + 1) l.length = decodeLossy l := by
      have := labelText_of_bytesAt hat.tail.left
      rwa [List.length_map, map_toNat_toUInt8 hbytes] at this
    have hname : ¬(appendLabel c.name (decodeLossy l)).utf8ByteSize > maxNameLength := by
      have := size_le_spelled (appendLabel c.name (decodeLossy l)) rest
      rw [spelled_cons] at hsize
      omega
    -- one label step, then the rest from just past the label
    have hstep : nameStep p c = .next { c with
        name := appendLabel c.name (decodeLossy l)
        pos := c.pos + 1 + l.length } := by
      rw [nameStep_label hat.getElem? (by rw [hlen]; exact hpos) (by rw [hlen]; exact hlt)
        (by rw [hlen]; exact hfit), hlen, htext, if_neg hname]
    have hrest := hat.tail.right
    rw [List.length_map] at hrest
    rw [readNameFrom_of_next hstep, ih _ hrest (fun m hm => hw m (by simp [hm])) hsize]
    simp only [spelled_cons, encodeName, List.length_cons, List.length_append]
    rw [show c.pos + 1 + l.length + (encodeName rest).length =
      c.pos + (l.length + 1 + (encodeName rest).length) by omega]

/-! ## The answer -/

theorem utf8ByteSize_pos {s : String} (h : s ≠ "") : 0 < s.utf8ByteSize := by
  apply Nat.pos_of_ne_zero
  intro h0
  apply h
  simpa [← String.isEmpty_iff_utf8ByteSize_eq_zero] using h0

/-- Labels of 1 to 63 bytes of text can be written. -/
theorem writable_map_bytesOf {labels : List String}
    (h : ∀ l ∈ labels, l ≠ "" ∧ l.utf8ByteSize ≤ maxLabel) : Writable (labels.map bytesOf) := by
  intro bs hbs
  obtain ⟨l, hl, rfl⟩ := List.mem_map.mp hbs
  obtain ⟨hne, hsize⟩ := h l hl
  have hpos := utf8ByteSize_pos hne
  rw [length_bytesOf]
  exact ⟨hpos, by unfold maxLabel at hsize; omega, bytesOf_lt l⟩

/-- Labels written as UTF-8 spell the labels themselves, joined as `appendLabel` joins them. -/
theorem spelled_map_bytesOf (name : String) (labels : List String) :
    spelled name (labels.map bytesOf) = labels.foldl appendLabel name := by
  induction labels generalizing name with
  | nil => rfl
  | cons l rest ih => rw [List.map_cons, spelled_cons, decodeLossy_bytesOf, ih, List.foldl_cons]

/-- Reading a response is reading its header, passing over its questions and then searching its
records. -/
theorem parseResponse_eq_findAddress {p : ByteArray} {hostname : String}
    {flags questions an ns ar pos : Nat} (hsize : headerLength ≤ p.size)
    (hflags : u16At p 2 = .ok flags) (hqr : flags / responseFlag % 2 = 1)
    (hq : u16At p 4 = .ok questions) (han : u16At p 6 = .ok an) (hns : u16At p 8 = .ok ns)
    (har : u16At p 10 = .ok ar) (hskip : skipQuestions p questions headerLength = .ok pos) :
    parseResponse p hostname = findAddress p (stripTrailingDots hostname) (an + ns + ar) pos := by
  simp [parseResponse, Nat.not_lt.mpr hsize, hflags, hqr, hq, han, hns, har, hskip, bind,
    Except.bind]

/-- A record is its owner name, then type, class, time to live, data length and data. -/
theorem readRecord_eq {p : ByteArray} {pos next rtype rclass rdlen : Nat} {name : String}
    (hname : readName p pos = .ok (name, next)) (htype : u16At p next = .ok rtype)
    (hclass : u16At p (next + 2) = .ok rclass) (hlen : u16At p (next + 8) = .ok rdlen)
    (fits : next + 10 + rdlen ≤ p.size) :
    readRecord p pos = .ok ⟨name, rtype, rclass, next + 10, rdlen, fits⟩ := by
  simp [readRecord, hname, htype, hclass, hlen, fits, bind, Except.bind, pure, Except.pure]

/-- The search stops at a record holding the address of the target. -/
theorem findAddress_of_isAddressOf {p : ByteArray} {target : String} {n pos : Nat} {r : Record p}
    (hr : readRecord p pos = .ok r) (h : r.IsAddressOf target) :
    findAddress p target (n + 1) pos = .ok (some (r.address h.2.2.1)) := by
  simp [findAddress, hr, h, bind, Except.bind, pure, Except.pure]

/-- The one answer record: owner name a pointer to offset 12, type A, class `rclass`, time to
live `ttl`, and the four bytes of `a` as data. -/
def answerRecord (rclass ttl : Nat) (a : Ipv4) : List Nat :=
  [0xC0, 0x0C] ++ be16 typeA ++ be16 rclass ++ be16 (ttl / 0x10000) ++ be16 ttl ++ be16 4 ++
    [a.a.toNat, a.b.toNat, a.c.toNat, a.d.toNat]

/-- The answer to the query for `hostname` with id `id`: the query with `flags` and one answer
counted in the header, and the answer record after the question. -/
def answerPacket (id : Nat) (hostname : String) (flags rclass ttl : Nat) (a : Ipv4) : List Nat :=
  let query := buildQuery id hostname
  query.take 2 ++ be16 flags ++ be16 1 ++ be16 1 ++ query.drop 8 ++ answerRecord rclass ttl a

@[simp] theorem length_be16 (n : Nat) : (be16 n).length = 2 := rfl

theorem answerPacket_eq (id : Nat) (hostname : String) (flags rclass ttl : Nat) (a : Ipv4) :
    answerPacket id hostname flags rclass ttl a =
      be16 id ++ be16 flags ++ be16 1 ++ be16 1 ++ be16 0 ++ be16 0 ++
        encodeName (queryLabels hostname) ++ be16 typeA ++ be16 classIn ++
        answerRecord rclass ttl a := by
  simp [answerPacket, buildQuery, be16]

/-- The labels a query writes for a host name of writable labels, and the name they spell. -/
theorem queryLabels_spelled {hostname : String} {labels : List String}
    (hlabels : ∀ l ∈ labels, l ≠ "" ∧ '.' ∉ l.toList ∧ l.utf8ByteSize ≤ maxLabel)
    (hhost : stripTrailingDots hostname = ".".intercalate labels) :
    Writable (queryLabels hostname) ∧
      spelled "" (queryLabels hostname) = stripTrailingDots hostname := by
  have hls : queryLabels hostname = labels.map bytesOf := queryLabels_of_labels hlabels hhost
  refine ⟨hls ▸ writable_map_bytesOf fun l hl => ⟨(hlabels l hl).1, (hlabels l hl).2.2⟩, ?_⟩
  rw [hls, spelled_map_bytesOf, foldl_appendLabel fun l hl => (hlabels l hl).1, hhost]

theorem bytesAt_answerPacket (id : Nat) (hostname : String) (flags rclass ttl : Nat) (a : Ipv4) :
    BytesAt (packetOf (answerPacket id hostname flags rclass ttl a)) 0
      ((be16 id ++ be16 flags ++ be16 1 ++ be16 1 ++ be16 0 ++ be16 0 ++
        encodeName (queryLabels hostname) ++ be16 typeA ++ be16 classIn ++
        answerRecord rclass ttl a).map Nat.toUInt8) := by
  rw [← answerPacket_eq]
  exact bytesAt_packetOf _

/-- A pointer to offset 12 reads the name written there and ends just past the pointer. -/
theorem readName_pointer_to_question {p : ByteArray} {ls : List (List Nat)} {pos : Nat}
    (hname : BytesAt p 12 ((encodeName ls).map Nat.toUInt8))
    (hptr : BytesAt p pos ([0xC0, 0x0C].map Nat.toUInt8)) (hw : Writable ls)
    (hsize : (spelled "" ls).utf8ByteSize ≤ maxNameLength) :
    readName p pos = .ok (spelled "" ls, pos + 2) := by
  have hstep : nameStep p { pos := pos } =
      .next { pos := 12, stop := some (pos + 2), jumps := 1, name := "" } := by
    rw [nameStep_pointer hptr.getElem? (by decide) hptr.tail.getElem?]
    simp [maxJumps]
  rw [readName, readNameFrom_of_next hstep]
  exact readNameFrom_encodeName ls _ hname hw hsize

/-- **A packet laid out as an answer reads as its address**: a response header counting one
question and one answer, the question for the name the labels `ls` spell, and an answer record
whose owner points back at that name, of class IN with or without the cache-flush bit. -/
theorem parseResponse_of_answerBytes {p : ByteArray} {ls : List (List Nat)}
    {id flags rclass ttl : Nat} {a : Ipv4} {asked : String}
    (hP : BytesAt p 0 ((be16 id ++ be16 flags ++ be16 1 ++ be16 1 ++ be16 0 ++ be16 0 ++
      encodeName ls ++ be16 typeA ++ be16 classIn ++ answerRecord rclass ttl a).map Nat.toUInt8))
    (hw : Writable ls) (hsize : (spelled "" ls).utf8ByteSize ≤ maxNameLength)
    (hflags : responseFlag ≤ flags ∧ flags < 0x10000)
    (hclass : rclass = classIn ∨ rclass = 0x8000 + classIn)
    (hsame : sameName (spelled "" ls) (stripTrailingDots asked) = true) :
    parseResponse p asked = .ok (some a) := by
  unfold answerRecord at hP
  simp only [List.map_append, bytesAt_append_iff, length_be16, List.length_map, List.length_append,
    List.length_cons, List.length_nil, Nat.zero_add, Nat.reduceAdd] at hP
  obtain ⟨⟨⟨⟨⟨⟨⟨⟨⟨-, hflags₀⟩, hq₀⟩, han₀⟩, hns₀⟩, har₀⟩, hname⟩, -⟩, hqclass⟩,
    ⟨⟨⟨⟨⟨⟨hptr₀, htype₀⟩, hclass₀⟩, -⟩, -⟩, hlen₀⟩, hdata₀⟩⟩ := hP
  -- the offsets past the question's name, `L` its length
  generalize hL : (encodeName ls).length = L at hqclass hptr₀ htype₀ hclass₀ hlen₀ hdata₀
  have hptr : BytesAt p (L + 16) _ := hptr₀.congr_pos (by omega)
  have htype : BytesAt p (L + 18) _ := htype₀.congr_pos (by omega)
  have hclass' : BytesAt p (L + 20) _ := hclass₀.congr_pos (by omega)
  have hlen : BytesAt p (L + 26) _ := hlen₀.congr_pos (by omega)
  have hdata : BytesAt p (L + 28) _ := hdata₀.congr_pos (by omega)
  have hend := hdata.size_le
  have hqend := hqclass.size_le
  simp only [List.map_cons, List.map_nil, List.length_cons, List.length_nil] at hend hqend
  -- the question, read from offset 12 and passed over
  have hquestion : readName p 12 = .ok (spelled "" ls, 12 + L) := by
    rw [← hL]
    exact readNameFrom_encodeName ls { pos := 12 } hname hw hsize
  have hskip : skipQuestions p 1 headerLength = .ok (L + 16) := by
    simp [skipQuestions, headerLength, hquestion, bind, Except.bind,
      show ¬12 + L + 4 > p.size by omega]
    omega
  -- the record, and the address it holds for the name asked
  have hrclass : rclass < 0x10000 := by rcases hclass with h | h <;> rw [h] <;> decide
  have hrec := readRecord_eq (readName_pointer_to_question hname hptr hw hsize)
    (u16At_be16 htype (by decide)) (u16At_be16 hclass' hrclass) (u16At_be16 hlen (by decide))
    (by omega)
  have hmatch : Record.IsAddressOf ⟨spelled "" ls, typeA, rclass, L + 16 + 2 + 10, 4, by omega⟩
      (stripTrailingDots asked) := by
    have hin : rclass % 0x8000 = classIn := by rcases hclass with h | h <;> rw [h] <;> decide
    exact ⟨rfl, hin, rfl, hsame⟩
  rw [parseResponse_eq_findAddress (by unfold headerLength; omega) (u16At_be16 hflags₀ hflags.2)
    (by unfold responseFlag at hflags ⊢; omega) (u16At_be16 hq₀ (by decide))
    (u16At_be16 han₀ (by decide)) (u16At_be16 hns₀ (by decide)) (u16At_be16 har₀ (by decide))
    hskip, show 1 + 0 + 0 = 0 + 1 from rfl, findAddress_of_isAddressOf hrec hmatch]
  simp only [List.map_cons, List.map_nil, UInt8.ofNat_toNat] at hdata
  rw [Record.address, addressAt_of_bytesAt hdata]

/-- A query is no response: read as one, it gives no address, whatever name is asked for. -/
theorem parseResponse_query (id : Nat) (hostname asked : String) :
    parseResponse (packetOf (buildQuery id hostname)) asked = .ok none := by
  have hP := bytesAt_packetOf (buildQuery id hostname)
  generalize packetOf (buildQuery id hostname) = p at hP ⊢
  unfold buildQuery at hP
  simp only [List.map_append, bytesAt_append_iff, length_be16, List.length_map, List.length_append,
    List.length_cons, List.length_nil, Nat.zero_add] at hP
  obtain ⟨⟨⟨⟨⟨⟨-, hflags⟩, -⟩, hcounts⟩, -⟩, -⟩, -⟩ := hP
  have hsize : headerLength ≤ p.size := hcounts.size_le
  simp [parseResponse, Nat.not_lt.mpr hsize, u16At_be16 hflags (by decide), responseFlag, bind,
    Except.bind, pure, Except.pure]

/-- **The answer to a query reads back as its address.** For a host name whose labels can be
written, the answer to its query gives the address for the name asked in any ASCII case, with
or without trailing dots; the query itself gives none. -/
theorem parseResponse_answer (id : Nat) (hostname asked : String) (labels : List String)
    (flags rclass ttl : Nat) (a : Ipv4)
    (hlabels : ∀ l ∈ labels, l ≠ "" ∧ '.' ∉ l.toList ∧ l.utf8ByteSize ≤ maxLabel)
    (hhost : stripTrailingDots hostname = ".".intercalate labels)
    (hlength : (".".intercalate labels).utf8ByteSize ≤ maxNameLength)
    (hflags : responseFlag ≤ flags ∧ flags < 0x10000)
    (hclass : rclass = classIn ∨ rclass = 0x8000 + classIn)
    (hasked : (stripTrailingDots asked).toList.map Char.toLower =
      (stripTrailingDots hostname).toList.map Char.toLower) :
    parseResponse (packetOf (answerPacket id hostname flags rclass ttl a)) asked = .ok (some a) ∧
      parseResponse (packetOf (buildQuery id hostname)) asked = .ok none := by
  obtain ⟨hw, hspelled⟩ := queryLabels_spelled hlabels hhost
  refine ⟨parseResponse_of_answerBytes (bytesAt_answerPacket id hostname flags rclass ttl a) hw ?_
    hflags hclass ?_,
    parseResponse_query id hostname asked⟩
  · rw [hspelled, hhost]
    exact hlength
  · rw [hspelled]
    exact sameName_of_toLower hasked.symm

theorem parseResponse_answer_upper_case_cache_flush :
    parseResponse (packetOf (answerPacket 0 "pentair.local" 0x8400 0x8001 120 ⟨192, 168, 1, 20⟩))
        "PENTAIR.LOCAL." = .ok (some ⟨192, 168, 1, 20⟩) ∧
      parseResponse (packetOf (buildQuery 0 "pentair.local")) "PENTAIR.LOCAL." = .ok none :=
  parseResponse_answer 0 "pentair.local" "PENTAIR.LOCAL." ["pentair", "local"] 0x8400 0x8001 120
    ⟨192, 168, 1, 20⟩ (by decide) (by decide) (by decide) (by decide) (by decide) (by decide)

end PoolMonitor.Discovery
