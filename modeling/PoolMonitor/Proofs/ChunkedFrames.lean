import Mathlib
import PoolMonitor.Proofs.ValueSkipping
import PoolMonitor.Proofs.QueryAnswer
import PoolMonitor.Link.Framing
/-!
# Frames of a chunked stream

Over TCP the JSON values come with nothing between them but blanks, and the receiver carves one
value at a time out of a buffer that grows by the chunks it reads (`receiveFrom`). Where a value
ends is found by the JSON library's stream of values, and the receiver relies on three of its
laws (`ValueStream.Lawful`): a buffer of blanks holds no value, a whole value is found up to its
last byte, and a value cut short is an end of input unless the cut falls inside a number token
where the text so far reads as something else (`Syntax.Value.topMarks`). The stream this library
provides keeps them (`jsonStream_lawful`). For every lawful stream, this module proves that the
chunking does not matter, as long as no read ends at such a cut:

* `carve_frame`, `carve_blanks` and `carve_partial`: one carve of a buffer that holds a whole
  value, only blanks, or a value cut short;
* `Pending`: what holds between receives, that the buffer and the chunks still to come make up the
  rest of the stream and that no read ends at a barred cut;
* `receiveFrom_frame`, by induction on the chunks: a receive gives the next value;
* `frames_independent_of_chunking`, by induction on the values: every value in order, then the
  close.

With this library's stream, a number at the end of the buffer counts as whole, so a read that
ends inside a number standing on its own gives its first digits as a frame of their own
(`split_number_gives_two_frames`). Inside
an array or an object a read may end right after a digit: the container is not closed yet.
-/

namespace PoolMonitor

open Json Json.Syntax

/-! ## One carve -/

theorem run_firstValue_complete (v : Syntax.Value) {c : Cursor} {w : List Space} {rest : List UInt8}
    (h : c.ahead = blankBytes w ++ (v.bytes ++ rest)) (hr : endsNumber rest = true)
    (hend : v.delimited = true ∨ endsValue rest.head? = true) :
    firstValue.run.run c = (.ok (some (c.pos + (w.length + v.bytes.length))), c.advance (w.length + v.bytes.length)) := by
  obtain ⟨x, l, hv, hx, -⟩ := v.bytes_head
  have hd := v.opens_delimited hv
  rw [hv] at h
  rw [firstValue, run_bind_of_ok (run_skipBlank h (head?_not_blank hx))]
  simp only [List.cons_append, List.head?_cons]
  rw [← hv] at h
  have h1 := Cursor.ahead_advance_blank h
  rw [run_bind_of_ok (run_skipValue v (w := []) (by rw [h1]; rfl) hr), run_bind_of_ok (run_peek _),
    hd, List.length_nil, Nat.zero_add, Cursor.ahead_advance_of_length h1 rfl]
  -- a value that does not end itself needs a byte after it that ends it
  have hok : (!v.delimited && !endsValue rest.head?) = false := by
    rcases hend with hend | hend <;> simp [hend]
  simp only [hok, Bool.false_eq_true, if_false]
  rw [run_bind_of_ok (run_get _)]
  simp only [Cursor.advance_advance]
  rfl

theorem run_firstValue_blanks {c : Cursor} {w : List Space} (h : c.ahead = blankBytes w) :
    (firstValue.run.run c).1 = .ok none := by
  rw [firstValue, run_bind_of_ok (run_skipBlank (l := []) (by rw [h, List.append_nil]) (by simp))]
  rfl

theorem runsOut_firstValue (v : Syntax.Value) {c : Cursor} {w : List Space} {x : UInt8}
    {p post : List UInt8} (h : c.ahead = blankBytes w ++ x :: p) (hpre : x :: p ++ post = v.bytes)
    (hpost : post ≠ []) (hm : v.topMarks[p.length + 1]? ≠ some true) : RunsOut firstValue c := by
  obtain ⟨y, l, hv, hy, -⟩ := v.bytes_head
  obtain rfl : x = y := by simpa [hv] using congrArg List.head? hpre
  rw [firstValue]
  refine RunsOut.of_ok (run_skipBlank h (head?_not_blank hy)) ?_
  simp only [List.head?_cons]
  exact (runsOut_skipValue v (w := []) (by simpa using hpre) hpost (by simpa using hm)
    (Cursor.ahead_advance_blank h)).bind _

theorem ahead_start (buffer : ByteArray) : (⟨buffer, 0, 128⟩ : Cursor).ahead = buffer.data.toList :=
  List.drop_zero

/-! ## The laws of a stream of values -/

/-- **What the receiver asks of a stream of JSON values**: a buffer of blanks holds no value; a
value followed by bytes that let it end there is found whole, up to its last byte; and a value
cut short by the end of the buffer is an end of input, unless the cut falls where the text so
far reads as a whole value or a malformed one (`Syntax.Value.topMarks`). -/
structure ValueStream.Lawful (stream : ValueStream) : Prop where
  blanks : ∀ {buffer : ByteArray} {w : List Space}, buffer.data.toList = blankBytes w →
    stream buffer = .ok none
  complete : ∀ (v : Syntax.Value) {buffer : ByteArray} {w : List Space} {rest : List UInt8},
    buffer.data.toList = blankBytes w ++ (v.bytes ++ rest) → endsNumber rest = true →
    (v.delimited = true ∨ endsValue rest.head? = true) →
    stream buffer = .ok (some (w.length + v.bytes.length))
  cut : ∀ (v : Syntax.Value) {buffer : ByteArray} {w : List Space} {x : UInt8}
    {p post : List UInt8}, buffer.data.toList = blankBytes w ++ x :: p → x :: p ++ post = v.bytes →
    post ≠ [] → v.topMarks[p.length + 1]? ≠ some true →
    ∃ e, stream buffer = .error e ∧ e.code.category = .eof

/-- **This library's stream of values keeps the laws.** -/
theorem jsonStream_lawful : ValueStream.Lawful jsonStream where
  blanks hb := run_firstValue_blanks (c := ⟨_, 0, 128⟩) (by rw [ahead_start, hb])
  complete v _ _ _ hb hr hend := by
    show (firstValue.run.run _).1 = _
    rw [run_firstValue_complete v (c := ⟨_, 0, 128⟩) (by rw [ahead_start, hb]) hr hend, Nat.zero_add]
  cut v _ _ _ _ _ hb hpre hpost hm := by
    obtain ⟨e, c', hrun, he⟩ :=
      runsOut_firstValue v (c := ⟨_, 0, 128⟩) (by rw [ahead_start, hb]) hpre hpost hm
    exact ⟨e, by show (firstValue.run.run _).1 = _; rw [hrun], he⟩

open Text in
/-- Blanks before a value are trimmed from its text, and a value has none at its ends. -/
theorem trimListBy_blankText (w : List Space) (v : Syntax.Value) :
    trimListBy isBlank (blankText w ++ v.text) = v.text := by
  have hw : ∀ c ∈ blankText w, isBlank c = true := by
    intro c hc
    obtain ⟨s, -, rfl⟩ := List.mem_map.mp hc
    cases s <;> decide +kernel
  have hhead := v.text_head?
  have hlast := v.text_getLast?
  obtain ⟨x, t, hx⟩ := List.exists_cons_of_ne_nil (show v.text ≠ [] from fun h => by simp [h] at hhead)
  rw [hx, List.head?_cons, Option.map_some, Option.some.injEq] at hhead
  have hdrop : (blankText w ++ v.text).dropWhile isBlank = v.text := by
    rw [List.dropWhile_append_of_pos hw, hx, List.dropWhile_cons_of_neg (by simp [hhead])]
  obtain ⟨y, r, hy⟩ := List.exists_cons_of_ne_nil
    (show v.text.reverse ≠ [] from fun h => by simp [List.reverse_eq_nil_iff.mp h] at hlast)
  rw [← List.head?_reverse, hy, List.head?_cons, Option.map_some, Option.some.injEq] at hlast
  rw [trimListBy, hdrop, hy, List.dropWhile_cons_of_neg (by simp [hlast]), ← hy, List.reverse_reverse]

/-- **The frame of a value is its text**: the bytes read, blanks before it included, decode and
trim to the value's own characters. -/
theorem frame_text (w : List Space) (v : Syntax.Value) :
    Text.trim (Text.Utf8.decodeLossy ((blankBytes w ++ v.bytes).map (·.toNat))) = String.ofList v.text := by
  rw [← utf8_blankText, v.bytes_eq_utf8, ← utf8_append, Text.Utf8.decodeLossy, utf8,
    Text.Utf8.decodeFrom_utf8Encode, Text.trim, String.toList_ofList, trimListBy_blankText]

section Carving

variable {stream : ValueStream}

/-- **A complete first value is a frame**, and the bytes after it stay in the buffer. -/
theorem carve_frame (hs : ValueStream.Lawful stream) (v : Syntax.Value) {buffer : ByteArray}
    {w : List Space} {rest : List UInt8} (hb : buffer.data.toList = blankBytes w ++ (v.bytes ++ rest))
    (hr : endsNumber rest = true) (hend : v.delimited = true ∨ endsValue rest.head? = true) :
    carve stream buffer =
      .frame (String.ofList v.text) (buffer.extract (w.length + v.bytes.length) buffer.size) := by
  -- the bytes up to the end of the value are the blanks and the value
  have hread : (buffer.extract 0 (w.length + v.bytes.length)).toList = blankBytes w ++ v.bytes := by
    rw [toList_extract, List.drop_zero, Nat.sub_zero, hb, ← List.append_assoc,
      List.take_left' (by simp [blankBytes])]
  simp only [carve, hs.complete v hb hr hend, hread, frame_text]

/-- A buffer of blanks only holds no frame, and is emptied. -/
theorem carve_blanks (hs : ValueStream.Lawful stream) {buffer : ByteArray} {w : List Space}
    (hb : buffer.data.toList = blankBytes w) : carve stream buffer = .needMore ByteArray.empty := by
  simp only [carve, hs.blanks hb]

/-- **A value cut short waits for more bytes**, unless its marks bar the cut. -/
theorem carve_partial (hs : ValueStream.Lawful stream) (v : Syntax.Value) {buffer : ByteArray}
    {w : List Space} {x : UInt8} {p post : List UInt8} (hb : buffer.data.toList = blankBytes w ++ x :: p)
    (hpre : x :: p ++ post = v.bytes) (hpost : post ≠ []) (hm : v.topMarks[p.length + 1]? ≠ some true) :
    carve stream buffer = .needMore buffer := by
  obtain ⟨e, hrun, he⟩ := hs.cut v hb hpre hpost hm
  simp only [carve, hrun, he]
  rfl

end Carving

/-! ## A stream of values -/

/-- JSON texts one after another, each with the blanks before it, then blanks at the end. -/
def streamBytes (parts : List (List Space × Syntax.Value)) (tail : List Space) : List UInt8 :=
  parts.flatMap (fun p => blankBytes p.1 ++ p.2.bytes) ++ blankBytes tail

/-- For each byte of a stream, whether a read may not end right before it. -/
def streamMarks (parts : List (List Space × Syntax.Value)) (tail : List Space) : List Bool :=
  parts.flatMap (fun p => clear p.1.length ++ p.2.topMarks) ++ clear tail.length

/-- Values follow each other with blanks between them, except where both end themselves. -/
def Separated (parts : List (List Space × Syntax.Value)) : Prop :=
  parts.IsChain fun a b => b.1 = [] → a.2.delimited = true ∧ b.2.delimited = true

instance (parts : List (List Space × Syntax.Value)) : Decidable (Separated parts) :=
  inferInstanceAs (Decidable (parts.IsChain _))

/-- Where each read ends, counted from the start of the first. -/
def readEnds : List ByteArray → List Nat
  | [] => []
  | c :: cs => c.size :: (readEnds cs).map (c.size + ·)

section Stream

variable {w tail : List Space} {v : Syntax.Value} {ps : List (List Space × Syntax.Value)}

@[simp] theorem streamBytes_nil : streamBytes [] tail = blankBytes tail := rfl

@[simp] theorem streamBytes_cons :
    streamBytes ((w, v) :: ps) tail = blankBytes w ++ (v.bytes ++ streamBytes ps tail) := by
  simp [streamBytes]

@[simp] theorem streamMarks_nil : streamMarks [] tail = clear tail.length := rfl

@[simp] theorem streamMarks_cons :
    streamMarks ((w, v) :: ps) tail = clear w.length ++ (v.topMarks ++ streamMarks ps tail) := by
  simp [streamMarks]

theorem endsValue_blankBytes (t : List Space) : endsValue (blankBytes t).head? = true := by
  cases t with
  | nil => rfl
  | cons s t => cases s <;> rfl

theorem endsValue_of_append_eq {r q l : List UInt8} (h : r ++ q = l) (hl : endsValue l.head? = true) :
    endsValue r.head? = true := by
  cases r with
  | nil => rfl
  | cons b r =>
    subst h
    exact hl

/-- **What follows a value in a stream lets it end there**: blanks, a value that opens with a
quote or a bracket, or nothing. -/
theorem ends_after (hsep : Separated ((w, v) :: ps)) :
    endsNumber (streamBytes ps tail) = true ∧ endsValue (streamBytes ps tail).head? = true := by
  cases ps with
  | nil => exact ⟨endsNumber_blankBytes_only tail, endsValue_blankBytes tail⟩
  | cons p ps =>
    obtain ⟨w', v'⟩ := p
    cases w' with
    | cons s w' => cases s <;> exact ⟨rfl, rfl⟩
    | nil =>
      -- no blanks between: the next value opens with a quote or a bracket
      have hd := (List.isChain_cons_cons.mp hsep).1 rfl
      obtain ⟨x, l, hv, -⟩ := v'.bytes_head
      have hx := v'.opens_delimited hv
      rw [hd.2] at hx
      simp only [streamBytes_cons, blankBytes_nil, List.nil_append, hv, List.cons_append,
        List.head?_cons]
      simp only [Bool.or_eq_true, beq_iff_eq] at hx
      rcases hx with (rfl | rfl) | rfl <;> exact ⟨rfl, rfl⟩

theorem Separated.of_cons {p : List Space × Syntax.Value} (h : Separated (p :: ps)) : Separated ps :=
  List.IsChain.tail h

/-- The blanks before the first value do not matter to separation. -/
theorem Separated.blanks (w' : List Space) (h : Separated ((w, v) :: ps)) :
    Separated ((w', v) :: ps) := by
  cases ps with
  | nil => exact List.isChain_singleton _
  | cons p ps => exact List.isChain_cons_cons.mpr (List.isChain_cons_cons.mp h)

theorem mem_readEnds_cons {c : ByteArray} {cs : List ByteArray} {k : Nat} :
    k ∈ readEnds (c :: cs) ↔ k = c.size ∨ ∃ k' ∈ readEnds cs, k = c.size + k' := by
  simp [readEnds, eq_comm]

theorem readEnds_cons_add {c : ByteArray} {cs : List ByteArray} {k : Nat} (hk : k ∈ readEnds cs) :
    c.size + k ∈ readEnds (c :: cs) :=
  mem_readEnds_cons.mpr (.inr ⟨k, hk, rfl⟩)

/-- The ends of the reads after a frame was cut off the front of the buffer. -/
theorem readEnds_of_frame {b e : ByteArray} {cs : List ByteArray} {n k : Nat} (hsize : n + e.size = b.size)
    (hk : k ∈ readEnds (e :: cs)) : n + k ∈ readEnds (b :: cs) := by
  rcases mem_readEnds_cons.mp hk with rfl | ⟨k', hk', rfl⟩
  · exact mem_readEnds_cons.mpr (.inl hsize)
  · rw [← Nat.add_assoc, hsize]
    exact readEnds_cons_add hk'

/-- The ends of the reads after a read was appended to the buffer. -/
theorem readEnds_of_append {b c : ByteArray} {cs : List ByteArray} {k : Nat}
    (hk : k ∈ readEnds ((b ++ c) :: cs)) : k ∈ readEnds (b :: c :: cs) := by
  rcases mem_readEnds_cons.mp hk with rfl | ⟨k', hk', rfl⟩
  · rw [ByteArray.size_append]
    exact readEnds_cons_add (mem_readEnds_cons.mpr (.inl rfl))
  · rw [ByteArray.size_append, Nat.add_assoc]
    exact readEnds_cons_add (readEnds_cons_add hk')

end Stream

/-! ## Receiving -/

/-- A receiver's buffer and the reads still to come hold the rest of a stream of values, and no
read ends at a barred cut. -/
structure Pending (buffer : ByteArray) (chunks : List ByteArray)
    (parts : List (List Space × Syntax.Value)) (tail : List Space) : Prop where
  joined : buffer.data.toList ++ chunks.flatMap (·.data.toList) = streamBytes parts tail
  cuts : ∀ k ∈ readEnds (buffer :: chunks), (streamMarks parts tail)[k]? ≠ some true
  separated : Separated parts

section Receiving

variable {stream : ValueStream} {w tail : List Space} {v : Syntax.Value}
  {ps : List (List Space × Syntax.Value)}

/-- **A receive with the first value whole in the buffer gives its frame**, and keeps the bytes
after it for the next receive. -/
theorem receiveFrom_complete (hs : ValueStream.Lawful stream) {buffer : ByteArray}
    {chunks : List ByteArray} {rest : List UInt8} (hp : Pending buffer chunks ((w, v) :: ps) tail)
    (hb : buffer.data.toList = (blankBytes w ++ v.bytes) ++ rest) :
    ∃ r : FrameReader, receiveFrom stream buffer chunks = (.ok (String.ofList v.text), r) ∧
      Pending r.buffer r.incoming ps tail := by
  have hjoin := hp.joined
  rw [hb, streamBytes_cons, ← List.append_assoc, List.append_assoc] at hjoin
  have hrest := List.append_cancel_left hjoin
  have hends : endsNumber (streamBytes ps tail) = true ∧ endsValue (streamBytes ps tail).head? = true :=
    ends_after hp.separated
  obtain ⟨hnum, hval⟩ := hends
  have hcarve := carve_frame hs v (by rw [hb, List.append_assoc])
    (endsNumber_of_append_eq hrest hnum) (.inr (endsValue_of_append_eq hrest hval))
  have hlen : (blankBytes w ++ v.bytes).length = w.length + v.bytes.length := by simp [blankBytes]
  have hsize : w.length + v.bytes.length + rest.length = buffer.size := by
    rw [← hlen, ← List.length_append, ← hb]
    simp
  refine ⟨⟨buffer.extract (w.length + v.bytes.length) buffer.size, chunks⟩,
    by rw [receiveFrom.eq_def, hcarve], ⟨?_, ?_, hp.separated.of_cons⟩⟩
  · -- the bytes after the frame
    rw [data_toList_extract, hb, ← hlen, List.drop_left, List.take_of_length_le (by rw [hlen]; omega)]
    exact hrest
  · -- the cuts, seen from the end of the frame
    intro k hk
    have hold := hp.cuts _ (readEnds_of_frame (n := w.length + v.bytes.length) (by simp; omega) hk)
    have hmarks : streamMarks ((w, v) :: ps) tail =
        (clear w.length ++ v.topMarks) ++ streamMarks ps tail := by
      simp
    have hmlen : (clear w.length ++ v.topMarks).length = w.length + v.bytes.length := by
      simp [v.length_topMarks]
    rwa [hmarks, ← hmlen, getElem?_append_length_add] at hold

theorem streamBytes_blanks (w₁ w₂ : List Space) :
    streamBytes ((w₁ ++ w₂, v) :: ps) tail = blankBytes w₁ ++ streamBytes ((w₂, v) :: ps) tail := by
  simp [blankBytes_append]

theorem streamMarks_blanks (w₁ w₂ : List Space) :
    streamMarks ((w₁ ++ w₂, v) :: ps) tail = clear w₁.length ++ streamMarks ((w₂, v) :: ps) tail := by
  simp [clear_add]

/-- Reading one more chunk into the buffer keeps the invariant. -/
theorem Pending.append {parts : List (List Space × Syntax.Value)} {buffer c : ByteArray}
    {cs : List ByteArray} (hp : Pending buffer (c :: cs) parts tail) :
    Pending (buffer ++ c) cs parts tail where
  joined := by
    rw [← hp.joined, ByteArray.data_append, Array.toList_append, List.flatMap_cons, List.append_assoc]
  cuts _ hk := hp.cuts _ (readEnds_of_append hk)
  separated := hp.separated

/-- Dropping a buffer of blanks keeps the invariant, with those blanks gone from the stream. -/
theorem Pending.skip_blanks {buffer : ByteArray} {chunks : List ByteArray} {w₁ w₂ : List Space}
    (hp : Pending buffer chunks ((w₁ ++ w₂, v) :: ps) tail) (hb : buffer.data.toList = blankBytes w₁) :
    Pending ByteArray.empty chunks ((w₂, v) :: ps) tail where
  joined := by
    have h := hp.joined
    rw [hb, streamBytes_blanks, List.append_cancel_left_eq] at h
    simpa using h
  cuts k hk := by
    have hsize : buffer.size = w₁.length := by simpa [blankBytes] using congrArg List.length hb
    have h := hp.cuts _ (readEnds_of_frame (n := buffer.size) (by simp) hk)
    rwa [streamMarks_blanks, hsize, getElem?_clear_append_add] at h
  separated := hp.separated.blanks w₂

theorem receiveFrom_needMore {buffer kept c : ByteArray} {cs : List ByteArray}
    (h : carve stream buffer = .needMore kept) :
    receiveFrom stream buffer (c :: cs) = receiveFrom stream (kept ++ c) cs := by
  rw [receiveFrom.eq_def, h]

/-- **Each receive gives the next value of the stream**, reading chunks until it is whole. -/
theorem receiveFrom_frame (hs : ValueStream.Lawful stream) (chunks : List ByteArray)
    {buffer : ByteArray} {w : List Space} (hp : Pending buffer chunks ((w, v) :: ps) tail) :
    ∃ r : FrameReader, receiveFrom stream buffer chunks = (.ok (String.ofList v.text), r) ∧
      Pending r.buffer r.incoming ps tail := by
  induction chunks generalizing buffer w with
  | nil =>
    have hjoin := hp.joined
    rw [streamBytes_cons, ← List.append_assoc, List.flatMap_nil, List.append_nil] at hjoin
    exact receiveFrom_complete hs hp hjoin
  | cons c cs ih =>
    have hjoin := hp.joined
    rw [streamBytes_cons, ← List.append_assoc] at hjoin
    rcases cut_append hjoin with ⟨q, hq, hshort⟩ | ⟨p, hb, -⟩
    · -- the first value is not whole in the buffer: it holds blanks only, or the value cut short
      rcases cut_blanks hshort with ⟨w₁, w₂, rfl, hb⟩ | ⟨x, p, hb, hpre⟩
      · rw [receiveFrom_needMore (carve_blanks hs hb)]
        exact ih (hp.skip_blanks hb).append
      · have hsize : buffer.size = w.length + (p.length + 1) := by
          simpa [blankBytes] using congrArg List.length hb
        have hm := hp.cuts _ (mem_readEnds_cons.mpr (.inl rfl))
        rw [streamMarks_cons, hsize, getElem?_clear_append_add] at hm
        rw [receiveFrom_needMore (carve_partial hs v hb hpre hq (ne_true_of_append hm))]
        exact ih hp.append
    · exact receiveFrom_complete hs hp hb

/-- **A closed stream of blanks ends the run**: every receive reports the session closed. -/
theorem receiveFrom_closed (hs : ValueStream.Lawful stream) (chunks : List ByteArray)
    {buffer : ByteArray} (hb : buffer.data.toList ++ chunks.flatMap (·.data.toList) = blankBytes tail) :
    ∃ r : FrameReader, receiveFrom stream buffer chunks = (.error .closed, r) := by
  induction chunks generalizing buffer tail with
  | nil =>
    rw [List.flatMap_nil, List.append_nil] at hb
    exact ⟨_, by rw [receiveFrom.eq_def, carve_blanks hs hb]⟩
  | cons c cs ih =>
    obtain ⟨t₁, t₂, rfl, hb₁⟩ := prefix_blankBytes hb
    rw [receiveFrom_needMore (carve_blanks hs hb₁)]
    have hrest : (ByteArray.empty ++ c).data.toList ++ cs.flatMap (·.data.toList) = blankBytes t₂ := by
      rw [hb₁, blankBytes_append, List.flatMap_cons, List.append_cancel_left_eq] at hb
      simpa using hb
    exact ih hrest

theorem streamMarks_head? : (streamMarks parts tail).head? ≠ some true := by
  rcases parts with _ | ⟨⟨_ | ⟨s, w⟩, v⟩, ps⟩
  · cases tail <;> simp [streamMarks, clear, List.replicate_succ]
  · simp [v.head?_topMarks]
  · simp [clear, List.replicate_succ]

/-- Before the first read, the buffer is empty and the cut before the first byte is harmless. -/
theorem Pending.start {parts : List (List Space × Syntax.Value)} {chunks : List ByteArray}
    (hsep : Separated parts) (hjoin : chunks.flatMap (·.data.toList) = streamBytes parts tail)
    (hcuts : ∀ k ∈ readEnds chunks, (streamMarks parts tail)[k]? ≠ some true) :
    Pending ByteArray.empty chunks parts tail where
  joined := by simpa using hjoin
  cuts k hk := by
    rcases mem_readEnds_cons.mp hk with rfl | ⟨k', hk', rfl⟩
    · simpa [List.head?_eq_getElem?] using streamMarks_head?
    · simpa using hcuts k' hk'
  separated := hsep

/-- The run of receives over a pending stream: one frame per value, then the close. -/
theorem receiveUpTo_pending (hs : ValueStream.Lawful stream) (parts : List (List Space × Syntax.Value))
    {limit : Nat} {r : FrameReader} (hp : Pending r.buffer r.incoming parts tail)
    (hlimit : parts.length < limit) :
    r.receiveUpTo stream limit = ⟨parts.map fun p => .ok (String.ofList p.2.text), true⟩ := by
  induction parts generalizing limit r with
  | nil =>
    obtain ⟨limit, rfl⟩ : ∃ l, limit = l + 1 := ⟨limit - 1, by simp at hlimit; omega⟩
    have hjoin := hp.joined
    rw [streamBytes_nil] at hjoin
    obtain ⟨r', hr⟩ := receiveFrom_closed hs r.incoming hjoin
    simp only [FrameReader.receiveUpTo, FrameReader.receive, hr, List.map_nil]
  | cons p ps ih =>
    obtain ⟨limit, rfl⟩ : ∃ l, limit = l + 1 := ⟨limit - 1, by simp at hlimit; omega⟩
    obtain ⟨w, v⟩ := p
    obtain ⟨r', hr, hp'⟩ := receiveFrom_frame hs r.incoming hp
    have hrest := ih hp' (by simpa using hlimit)
    simp only [FrameReader.receiveUpTo, FrameReader.receive, hr, hrest, List.map_cons]

/-- **Framing does not depend on the chunking**: for every lawful stream of JSON values, values
separated by blanks, read in any chunks and then closed, give their texts in order and then the
close, as long as no read ends at a cut that `streamMarks` bars, inside a number token where the
text so far reads as something else. -/
theorem frames_independent_of_chunking (hs : ValueStream.Lawful stream)
    {parts : List (List Space × Syntax.Value)} {chunks : List ByteArray} {limit : Nat}
    (hsep : Separated parts) (hjoin : chunks.flatMap (·.data.toList) = streamBytes parts tail)
    (hcuts : ∀ k ∈ readEnds chunks, (streamMarks parts tail)[k]? ≠ some true)
    (hlimit : parts.length < limit) :
    ({ incoming := chunks } : FrameReader).receiveUpTo stream limit =
      ⟨parts.map fun p => .ok (String.ofList p.2.text), true⟩ :=
  receiveUpTo_pending hs parts (Pending.start hsep hjoin hcuts) hlimit

end Receiving

theorem digit_one_ne_zero : (⟨1, by decide⟩ : Fin 10) ≠ 0 := by decide

/-- An object whose string holds a two-byte character, then the array `[12]` after a blank. -/
def objectThenArray : List (List Space × Syntax.Value) :=
  [([], .object [] (.last ⟨[.plain 'a' (by decide)], []⟩ [] (.string [.plain 'é' (by decide)]) [])),
   ([.space], .array [] (.last (.number ⟨false, .digits ⟨1, by decide⟩ [⟨2, by decide⟩] digit_one_ne_zero, none, none⟩) []))]

/-- The bytes of `objectThenArray` in three reads: the first ends inside the two-byte character,
the second right after the digit `1`. -/
def objectThenArrayReads : List ByteArray :=
  [⟨#[123, 34, 97, 34, 58, 34, 195]⟩, ⟨#[169, 34, 125, 32, 91, 49]⟩, ⟨#[50, 93]⟩]

theorem frames_of_object_then_array :
    ValueStream.Lawful jsonStream ∧ Separated objectThenArray ∧
      objectThenArrayReads.flatMap (·.data.toList) = streamBytes objectThenArray [] ∧
      (∀ k ∈ readEnds objectThenArrayReads, (streamMarks objectThenArray [])[k]? ≠ some true) ∧
      objectThenArray.length < 3 ∧
      ({ incoming := objectThenArrayReads } : FrameReader).receiveUpTo jsonStream 3 =
        ⟨objectThenArray.map fun p => .ok (String.ofList p.2.text), true⟩ := by
  have hsep : Separated objectThenArray := by decide
  have hjoin : objectThenArrayReads.flatMap (·.data.toList) = streamBytes objectThenArray [] := by decide
  have hcuts : ∀ k ∈ readEnds objectThenArrayReads, (streamMarks objectThenArray [])[k]? ≠ some true := by
    decide
  exact ⟨jsonStream_lawful, hsep, hjoin, hcuts, by decide,
    frames_independent_of_chunking jsonStream_lawful hsep hjoin hcuts (by decide)⟩

/-- The one value `12`, read as `1` and then `2`, comes out as two frames. -/
theorem split_number_gives_two_frames :
    [(⟨#[49]⟩ : ByteArray), ⟨#[50]⟩].flatMap (·.data.toList) =
        streamBytes [([], .number ⟨false, .digits 1 [2] (by decide), none, none⟩)] [] ∧
      ({ incoming := [⟨#[49]⟩, ⟨#[50]⟩] } : FrameReader).receiveUpTo jsonStream 3 =
        ⟨[.ok "1", .ok "2"], true⟩ :=
  ⟨by decide, by cbv⟩

end PoolMonitor
