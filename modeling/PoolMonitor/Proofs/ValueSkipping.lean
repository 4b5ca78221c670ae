import Mathlib
import PoolMonitor.Proofs.TokenSkipping
/-!
# Skipping a JSON value

On the UTF-8 bytes of a JSON text (`Syntax.Value`), `skipValue` does what a reader of a stream
needs:

* **`run_skipValue`**: on a whole value, with blanks before it and anything after it that cannot
  continue a number, it stops right after the value;
* **`runsOut_skipValue`**: on a value cut short where its marks allow (`Syntax.Value.topMarks`),
  it stops with an error of the end-of-input kind.

Both come from one induction over values, items and members (`Syntax.Value.skips` and
`Syntax.Value.runsOut` with their companions), built on the token steps of `TokenSkipping`. The
marks bar the cuts inside number tokens that a reader takes for something else: a number of its
own cut anywhere is a shorter number, and a number inside an array or object cut right after its
minus, its point, its exponent mark or the exponent's sign is malformed. Cut right after a digit,
a number inside an array or object is read whole and the input ends before what follows it
(`runsOut_item`). The loops' fuel runs out only on input shorter than it, where it too stops at
the end of the input.
-/

namespace PoolMonitor.Json

open Syntax

/-! ## Whole values -/

/-- A name is passed over after its blanks. -/
theorem run_skipValueFor_literal (l : Literal) {c : Cursor} {w : List Space} {rest : List UInt8}
    (h : c.ahead = blankBytes w ++ (l.text.map byte ++ rest)) (fuel : Nat) :
    (skipValueFor (fuel + 1)).run.run c = (.ok (), c.advance (w.length + l.text.length)) := by
  have hl : ∀ b ∈ (l.text.map byte ++ rest).head?, isBlankByte b = false := by
    cases l <;> simp [Literal.text] <;> decide
  rw [skipValueFor, run_bind_of_ok (run_skipBlank h hl)]
  have h1 := Cursor.ahead_advance_blank h
  cases l <;>
    simp +decide only [Literal.text, List.map_cons, List.map_nil, List.cons_append,
      List.nil_append, List.head?_cons, ↓reduceIte] at h1 ⊢ <;>
    rw [run_bind_of_ok (run_bump _), run_expectWord _ rest _ (Cursor.ahead_advance_one h1)] <;>
    simp [Nat.add_assoc]

theorem Syntax.Number.unsigned_head (n : Syntax.Number) : ∃ d l, n.unsigned = digitChar d :: l := by
  cases hw : n.whole with
  | zero => exact ⟨0, _, by rw [Syntax.Number.unsigned, hw, Whole.text]; rfl⟩
  | digits first rest _ => exact ⟨first, _, by rw [Syntax.Number.unsigned, hw, Whole.text]; rfl⟩

theorem digit_byte_facts : ∀ d : Fin 10, isBlankByte (byte (digitChar d)) = false ∧
    (byte (digitChar d) == byte ']') = false ∧ (byte (digitChar d) == byte '}') = false := by
  decide +kernel

/-- A value's first byte is no blank and closes nothing. -/
theorem Syntax.Value.bytes_head (v : Syntax.Value) : ∃ x l, v.bytes = x :: l ∧
    isBlankByte x = false ∧ (x == byte ']') = false ∧ (x == byte '}') = false := by
  cases v with
  | literal l => cases l <;> exact ⟨_, _, rfl, by decide, by decide, by decide⟩
  | number n =>
    obtain ⟨d, l, hd⟩ := n.unsigned_head
    cases hn : n.negative
    · refine ⟨byte (digitChar d), l.map byte, ?_, digit_byte_facts d⟩
      simp only [Syntax.Value.bytes, Syntax.Number.text, hn, hd, Bool.false_eq_true, if_false,
        List.nil_append, List.map_cons]
    · refine ⟨byte '-', n.unsigned.map byte, ?_, by decide, by decide, by decide⟩
      simp only [Syntax.Value.bytes, Syntax.Number.text, hn, if_true, List.cons_append,
        List.nil_append, List.map_cons]
  | string s => exact ⟨_, _, rfl, by decide, by decide, by decide⟩
  | emptyArray w => exact ⟨_, _, rfl, by decide, by decide, by decide⟩
  | array w items => exact ⟨_, _, rfl, by decide, by decide, by decide⟩
  | emptyObject w => exact ⟨_, _, rfl, by decide, by decide, by decide⟩
  | object w members => exact ⟨_, _, rfl, by decide, by decide, by decide⟩

theorem byte_digitChar_beq {d : Fin 10} {c : Char} (h : c.toNat < 48 ∨ 57 < c.toNat)
    (hc : c.toNat < 256) : (byte (digitChar d) == byte c) = false :=
  beq_false_of_ne (byte_digitChar_ne h hc)

/-- A number is passed over after its blanks, from its minus or first digit. -/
theorem run_skipValueFor_number (n : Syntax.Number) {c : Cursor} {w : List Space} {rest : List UInt8}
    (h : c.ahead = blankBytes w ++ (n.text.map byte ++ rest)) (hr : endsNumber rest = true)
    (fuel : Nat) :
    (skipValueFor (fuel + 1)).run.run c = (.ok (), c.advance (w.length + n.text.length)) := by
  obtain ⟨x, l, hv, hx, -⟩ := (Syntax.Value.number n).bytes_head
  have hl : ∀ b ∈ (n.text.map byte ++ rest).head?, isBlankByte b = false := by
    rw [show n.text.map byte = x :: l from hv]
    simpa using hx
  rw [skipValueFor, run_bind_of_ok (run_skipBlank h hl)]
  have h1 := Cursor.ahead_advance_blank h
  obtain ⟨d, u, hd⟩ := n.unsigned_head
  cases hn : n.negative
  · -- a first digit: the number is read from it
    have ht : n.text = n.unsigned := by simp [Syntax.Number.text, hn]
    rw [ht] at h1 ⊢
    simp only [hd, List.map_cons, List.cons_append, List.head?_cons]
    simp only [byte_digitChar_beq (c := 'n') (by simp) (by simp),
      byte_digitChar_beq (c := 't') (by simp) (by simp),
      byte_digitChar_beq (c := 'f') (by simp) (by simp),
      byte_digitChar_beq (c := '-') (by simp) (by simp), digitValue?_digitChar,
      Option.isSome_some, Bool.false_eq_true, if_false, if_true]
    rw [run_skipNumber n h1 hr, hd, Cursor.advance_advance]
  · -- a minus, passed over before the number
    have ht : n.text = '-' :: n.unsigned := by simp [Syntax.Number.text, hn]
    rw [ht] at h1 ⊢
    simp +decide only [List.map_cons, List.cons_append, List.head?_cons, ↓reduceIte]
    rw [run_bind_of_ok (run_bump _), run_skipNumber n (Cursor.ahead_advance_one h1) hr]
    simp [Nat.add_assoc, Nat.add_comm 1]

/-- A string is passed over after its blanks. -/
theorem run_skipValueFor_string (s : List Piece) {c : Cursor} {w : List Space} {rest : List UInt8}
    (h : c.ahead = blankBytes w ++ (stringBytes s ++ rest)) (fuel : Nat) :
    (skipValueFor (fuel + 1)).run.run c = (.ok (), c.advance (w.length + (stringBytes s).length)) := by
  rw [skipValueFor, run_bind_of_ok (run_skipBlank h (by simp [stringBytes]; decide))]
  have h1 := Cursor.ahead_advance_blank h
  simp only [stringBytes, List.cons_append, List.append_assoc] at h1 ⊢
  simp +decide only [List.head?_cons, ↓reduceIte]
  rw [run_bind_of_ok (run_bump _), run_skipString s (Cursor.ahead_advance_one h1)]
  simp [Nat.add_assoc, Nat.add_comm 1]

theorem Syntax.Items.bytes_head (items : Items) : ∃ x l, items.bytes = x :: l ∧
    isBlankByte x = false ∧ (x == byte ']') = false := by
  cases items with
  | last v a =>
    obtain ⟨x, l, hv, hx⟩ := v.bytes_head
    exact ⟨x, _, by rw [Syntax.Items.bytes, hv]; rfl, hx.1, hx.2.1⟩
  | cons v a n rest =>
    obtain ⟨x, l, hv, hx⟩ := v.bytes_head
    exact ⟨x, _, by rw [Syntax.Items.bytes, hv]; rfl, hx.1, hx.2.1⟩

theorem Syntax.Members.bytes_head (members : Members) :
    ∃ l, members.bytes = byte '"' :: l := by
  cases members <;> exact ⟨_, rfl⟩

theorem head?_not_blank {x : UInt8} {l : List UInt8} (hx : isBlankByte x = false) :
    ∀ b ∈ (x :: l).head?, isBlankByte b = false := by
  simpa using hx

/-- An empty array is passed over after its blanks. -/
theorem run_skipValueFor_emptyArray (inner : List Space) {c : Cursor} {w : List Space}
    {rest : List UInt8} (h : c.ahead = blankBytes w ++ ((Syntax.Value.emptyArray inner).bytes ++ rest))
    (fuel : Nat) : (skipValueFor (fuel + 1)).run.run c =
      (.ok (), c.advance (w.length + (Syntax.Value.emptyArray inner).bytes.length)) := by
  rw [skipValueFor, run_bind_of_ok (run_skipBlank h (head?_not_blank (by decide)))]
  have h1 := Cursor.ahead_advance_blank h
  simp only [Syntax.Value.bytes, List.cons_append, List.append_assoc] at h1 ⊢
  simp +decide only [List.head?_cons, ↓reduceIte]
  have h2 := Cursor.ahead_advance_one h1
  rw [run_bind_of_ok (run_bump _), run_bind_of_ok (run_skipBlank h2 (head?_not_blank (by decide)))]
  simp +decide only [List.head?_cons, ↓reduceIte]
  rw [run_bump]
  simp [blankBytes, Nat.add_assoc, Nat.add_comm 1]

/-- **An array is entered** after its blanks, its bracket and the blanks after it, when a byte
follows that neither is a blank nor closes the array: the loop over its items goes on from there.
Whether the items are whole or cut short is the loop's business. -/
theorem run_skipValueFor_enterArray {c : Cursor} {w before : List Space} {y : UInt8}
    {more : List UInt8} (h : c.ahead = blankBytes w ++ byte '[' :: (blankBytes before ++ y :: more))
    (hy : isBlankByte y = false) (hclose : (y == byte ']') = false) (fuel : Nat) :
    (skipValueFor (fuel + 1)).run.run c =
      (skipItemsFor fuel).run.run (c.advance (w.length + 1 + before.length)) := by
  have h1 := Cursor.ahead_advance_one (Cursor.ahead_advance_blank h)
  rw [skipValueFor, run_bind_of_ok (run_skipBlank h (head?_not_blank (by decide)))]
  simp +decide only [List.head?_cons, ↓reduceIte]
  rw [run_bind_of_ok (run_bump _), run_bind_of_ok (run_skipBlank h1 (head?_not_blank hy))]
  simp only [List.head?_cons, hclose, Bool.false_eq_true, if_false, Cursor.advance_advance]

/-- An array is entered after its blanks: its items follow. -/
theorem run_skipValueFor_array (before : List Space) (items : Items) {c : Cursor} {w : List Space}
    {rest : List UInt8} (h : c.ahead = blankBytes w ++ ((Syntax.Value.array before items).bytes ++ rest))
    (fuel : Nat) : (skipValueFor (fuel + 1)).run.run c =
      (skipItemsFor fuel).run.run (c.advance (w.length + 1 + before.length)) := by
  obtain ⟨x, l, hi, hx, hclose⟩ := items.bytes_head
  have hc : c.ahead = blankBytes w ++ byte '[' :: (blankBytes before ++ x :: (l ++ byte ']' :: rest)) := by
    rw [h]
    simp [Syntax.Value.bytes, hi]
  exact run_skipValueFor_enterArray hc hx hclose fuel

/-- An empty object is passed over after its blanks. -/
theorem run_skipValueFor_emptyObject (inner : List Space) {c : Cursor} {w : List Space}
    {rest : List UInt8} (h : c.ahead = blankBytes w ++ ((Syntax.Value.emptyObject inner).bytes ++ rest))
    (fuel : Nat) : (skipValueFor (fuel + 1)).run.run c =
      (.ok (), c.advance (w.length + (Syntax.Value.emptyObject inner).bytes.length)) := by
  rw [skipValueFor, run_bind_of_ok (run_skipBlank h (head?_not_blank (by decide)))]
  have h1 := Cursor.ahead_advance_blank h
  simp only [Syntax.Value.bytes, List.cons_append, List.append_assoc] at h1 ⊢
  simp +decide only [List.head?_cons, ↓reduceIte]
  have h2 := Cursor.ahead_advance_one h1
  rw [run_bind_of_ok (run_bump _), run_bind_of_ok (run_skipBlank h2 (head?_not_blank (by decide)))]
  simp +decide only [List.head?_cons, ↓reduceIte]
  rw [run_bump]
  simp [blankBytes, Nat.add_assoc, Nat.add_comm 1]

/-- **An object is entered** after its blanks, its brace and the blanks after it, when the quote
of a member's name follows: the loop over its members goes on from there. -/
theorem run_skipValueFor_enterObject {c : Cursor} {w before : List Space} {more : List UInt8}
    (h : c.ahead = blankBytes w ++ byte '{' :: (blankBytes before ++ byte '"' :: more)) (fuel : Nat) :
    (skipValueFor (fuel + 1)).run.run c =
      (skipMembersFor fuel).run.run (c.advance (w.length + 1 + before.length)) := by
  have h1 := Cursor.ahead_advance_one (Cursor.ahead_advance_blank h)
  rw [skipValueFor, run_bind_of_ok (run_skipBlank h (head?_not_blank (by decide)))]
  simp +decide only [List.head?_cons, ↓reduceIte]
  rw [run_bind_of_ok (run_bump _), run_bind_of_ok (run_skipBlank h1 (head?_not_blank (by decide)))]
  simp +decide only [List.head?_cons, ↓reduceIte, Cursor.advance_advance]

/-- An object is entered after its blanks: its members follow. -/
theorem run_skipValueFor_object (before : List Space) (members : Members) {c : Cursor}
    {w : List Space} {rest : List UInt8}
    (h : c.ahead = blankBytes w ++ ((Syntax.Value.object before members).bytes ++ rest))
    (fuel : Nat) : (skipValueFor (fuel + 1)).run.run c =
      (skipMembersFor fuel).run.run (c.advance (w.length + 1 + before.length)) := by
  obtain ⟨l, hm⟩ := members.bytes_head
  have hc : c.ahead = blankBytes w ++ byte '{' :: (blankBytes before ++ byte '"' :: (l ++ byte '}' :: rest)) := by
    rw [h]
    simp [Syntax.Value.bytes, hm]
  exact run_skipValueFor_enterObject hc fuel

theorem endsNumber_blankBytes (w : List Space) {b : UInt8} {l : List UInt8}
    (hb : continuesNumber b = false) : endsNumber (blankBytes w ++ b :: l) = true := by
  cases w with
  | nil => simp [blankBytes, endsNumber, hb]
  | cons s w => cases s <;> rfl

/-- What follows an item or a member: blanks, then a comma and what `next` reads, or the
closing bracket `close`. -/
def listTail (close : Char) (next : Read Unit) (expected eof : Code) : Read Unit := do
  match ← skipBlank with
  | some x =>
    if x == byte ',' then do bump; next
    else if x == byte close then bump
    else failAhead expected
  | none => failAhead eof

section ListTail

variable {close : Char} {next : Read Unit} {expected eof : Code} {c : Cursor} {a : List Space}
  {rest : List UInt8}

theorem run_listTail_close (hc : isBlankByte (byte close) = false) (hcomma : (byte close == byte ',') = false)
    (h : c.ahead = blankBytes a ++ byte close :: rest) :
    (listTail close next expected eof).run.run c = (.ok (), c.advance (a.length + 1)) := by
  rw [listTail, run_bind_of_ok (run_skipBlank h (head?_not_blank hc))]
  simp only [List.head?_cons, hcomma, beq_self_eq_true, Bool.false_eq_true, if_false, if_true]
  rw [run_bump, Cursor.advance_advance]

theorem run_listTail_comma (h : c.ahead = blankBytes a ++ byte ',' :: rest) :
    (listTail close next expected eof).run.run c = next.run.run (c.advance (a.length + 1)) := by
  rw [listTail, run_bind_of_ok (run_skipBlank h (head?_not_blank (by decide)))]
  simp only [List.head?_cons, beq_self_eq_true, if_true]
  rw [run_bind_of_ok (run_bump _), Cursor.advance_advance]

theorem runsOut_listTail (he : eof.category = .eof) (h : c.ahead = blankBytes a) :
    RunsOut (listTail close next expected eof) c := by
  rw [listTail]
  exact RunsOut.of_ok (run_skipBlank (l := []) (by rw [h, List.append_nil]) (by simp))
    (runsOut_failAhead he _)

end ListTail

/-- The loop over items: an item, then what follows it. -/
theorem run_skipItemsFor_succ (fuel : Nat) (c : Cursor) :
    (skipItemsFor (fuel + 1)).run.run c = (skipValueFor fuel >>= fun _ =>
      listTail ']' (skipItemsFor fuel) .expectedListCommaOrEnd .eofWhileParsingList).run.run c :=
  rfl

/-- **A member's name and colon are passed over**, and its value and the rest follow. -/
theorem run_skipMembersFor_key (k : Key) (b : List Space) {c : Cursor} {w : List Space}
    {more : List UInt8} (fuel : Nat) (h : c.ahead = blankBytes w ++ (k.bytes ++ (blankBytes b ++ more))) :
    (skipMembersFor (fuel + 1)).run.run c =
      (skipValueFor fuel >>= fun _ => listTail '}' (skipMembersFor fuel) .expectedObjectCommaOrEnd
        .eofWhileParsingObject).run.run (c.advance (w.length + k.bytes.length)) := by
  obtain ⟨name, colon⟩ := k
  have h1 : c.ahead = blankBytes w ++ (byte '"' :: (name.flatMap Piece.bytes ++ byte '"' ::
      (blankBytes colon ++ byte ':' :: (blankBytes b ++ more)))) := by
    rw [h]; simp [Key.bytes, stringBytes]
  have h2 := Cursor.ahead_advance_one (Cursor.ahead_advance_blank h1)
  have h3 := Cursor.ahead_advance_past h2
  rw [skipMembersFor, run_bind_of_ok (run_skipBlank h1 (head?_not_blank (by decide)))]
  simp +decide only [List.head?_cons, ↓reduceIte]
  rw [run_bind_of_ok (run_bump _), run_bind_of_ok (run_skipString name h2),
    run_bind_of_ok (run_skipBlank h3 (head?_not_blank (by decide)))]
  simp +decide only [List.head?_cons, ↓reduceIte]
  rw [run_bind_of_ok (run_bump _)]
  simp only [Cursor.advance_advance]
  have hk : w.length + 1 + ((name.flatMap Piece.bytes).length + 1) + colon.length + 1 =
      w.length + (Key.mk name colon).bytes.length := by
    simp [Key.bytes, stringBytes, blankBytes]
    omega
  rw [hk]
  rfl

mutual

/-- **A value is passed over**, with the blanks before it, when the fuel covers its bytes; with
less fuel it may also run out. -/
theorem Syntax.Value.skips : ∀ (v : Syntax.Value) {c : Cursor} {w : List Space} {rest : List UInt8}
    (fuel : Nat), c.ahead = blankBytes w ++ (v.bytes ++ rest) → endsNumber rest = true →
      Skips (skipValueFor fuel) c (c.advance (w.length + v.bytes.length)) (v.bytes.length ≤ fuel)
  | v, c, _, _, 0, _, _ => by
    obtain ⟨x, l, hv, -⟩ := v.bytes_head
    exact Or.inr ⟨by simp [hv], runsOut_failAhead rfl c⟩
  | .literal l, c, w, rest, fuel + 1, h, _ =>
    Skips.of_ok (by rw [run_skipValueFor_literal l h fuel, Syntax.Value.bytes, List.length_map])
  | .number n, c, w, rest, fuel + 1, h, hr =>
    Skips.of_ok (by rw [run_skipValueFor_number n h hr fuel, Syntax.Value.bytes, List.length_map])
  | .string s, c, w, rest, fuel + 1, h, _ =>
    Skips.of_ok (by rw [run_skipValueFor_string s h fuel, Syntax.Value.bytes])
  | .emptyArray inner, c, w, rest, fuel + 1, h, _ =>
    Skips.of_ok (run_skipValueFor_emptyArray inner h fuel)
  | .emptyObject inner, c, w, rest, fuel + 1, h, _ =>
    Skips.of_ok (run_skipValueFor_emptyObject inner h fuel)
  | .array before items, c, w, rest, fuel + 1, h, _ => by
    have h1 : c.ahead = (blankBytes w ++ byte '[' :: blankBytes before) ++
        (blankBytes [] ++ (items.bytes ++ byte ']' :: rest)) := by
      rw [h]; simp [Syntax.Value.bytes, blankBytes]
    have hi := Syntax.Items.skips items fuel
      (Cursor.ahead_advance_of_length (n := w.length + 1 + before.length) h1 (by simp [blankBytes]; omega))
    refine (Skips.of_run_eq (run_skipValueFor_array before items h fuel) hi).mono ?_ |>.congr ?_
    · intro hf
      simp only [Syntax.Value.bytes, List.length_cons, List.length_append, blankBytes,
        List.length_map] at hf
      omega
    · rw [Cursor.advance_advance]
      congr 1
      simp [Syntax.Value.bytes, blankBytes]
      omega
  | .object before members, c, w, rest, fuel + 1, h, _ => by
    have h1 : c.ahead = (blankBytes w ++ byte '{' :: blankBytes before) ++
        (blankBytes [] ++ (members.bytes ++ byte '}' :: rest)) := by
      rw [h]; simp [Syntax.Value.bytes, blankBytes]
    have hm := Syntax.Members.skips members fuel
      (Cursor.ahead_advance_of_length (n := w.length + 1 + before.length) h1 (by simp [blankBytes]; omega))
    refine (Skips.of_run_eq (run_skipValueFor_object before members h fuel) hm).mono ?_ |>.congr ?_
    · intro hf
      simp only [Syntax.Value.bytes, List.length_cons, List.length_append, blankBytes,
        List.length_map] at hf
      omega
    · rw [Cursor.advance_advance]
      congr 1
      simp [Syntax.Value.bytes, blankBytes]
      omega

/-- **The items of an array are passed over**, up to its closing bracket. -/
theorem Syntax.Items.skips : ∀ (items : Items) {c : Cursor} {w : List Space} {rest : List UInt8}
    (fuel : Nat), c.ahead = blankBytes w ++ (items.bytes ++ byte ']' :: rest) →
      Skips (skipItemsFor fuel) c (c.advance (w.length + items.bytes.length + 1))
        (items.bytes.length < fuel)
  | _, c, _, _, 0, _ => Or.inr ⟨by omega, runsOut_failAhead rfl c⟩
  | .last v a, c, w, rest, fuel + 1, h => by
    have h1 : c.ahead = (blankBytes w ++ v.bytes) ++ (blankBytes a ++ byte ']' :: rest) := by
      rw [h]; simp [Syntax.Items.bytes]
    have hv := Syntax.Value.skips v fuel (by rw [h1, List.append_assoc]) (endsNumber_blankBytes a (by decide))
    have h2 := Cursor.ahead_advance_of_length (n := w.length + v.bytes.length) h1 (by simp [blankBytes])
    refine Skips.of_run_eq (run_skipItemsFor_succ fuel c) (Skips.bind hv ?_ (Skips.of_ok ?_))
    · intro hf
      simp only [Syntax.Items.bytes, List.length_append] at hf
      omega
    · rw [run_listTail_close (by decide) (by decide) h2, Cursor.advance_advance]
      simp [Syntax.Items.bytes, blankBytes, Nat.add_assoc]
  | .cons v a n more, c, w, rest, fuel + 1, h => by
    have h1 : c.ahead = (blankBytes w ++ v.bytes) ++
        (blankBytes a ++ byte ',' :: (blankBytes n ++ (more.bytes ++ byte ']' :: rest))) := by
      rw [h]; simp [Syntax.Items.bytes]
    have hv := Syntax.Value.skips v fuel (by rw [h1, List.append_assoc]) (endsNumber_blankBytes a (by decide))
    have h2 := Cursor.ahead_advance_of_length (n := w.length + v.bytes.length) h1 (by simp [blankBytes])
    have ih := Syntax.Items.skips more fuel (Cursor.ahead_advance_blank_past h2)
    refine Skips.of_run_eq (run_skipItemsFor_succ fuel c)
      (Skips.bind hv ?_ (Skips.of_run_eq (run_listTail_comma h2) ((ih.mono ?_).congr ?_)))
    · intro hf
      simp only [Syntax.Items.bytes, List.length_append] at hf
      omega
    · intro hf
      simp only [Syntax.Items.bytes, List.length_append, List.length_cons] at hf
      omega
    · simp only [Cursor.advance_advance]
      congr 1
      simp [Syntax.Items.bytes, blankBytes]
      omega

/-- **The members of an object are passed over**, up to its closing brace. -/
theorem Syntax.Members.skips : ∀ (members : Members) {c : Cursor} {w : List Space} {rest : List UInt8}
    (fuel : Nat), c.ahead = blankBytes w ++ (members.bytes ++ byte '}' :: rest) →
      Skips (skipMembersFor fuel) c (c.advance (w.length + members.bytes.length + 1))
        (members.bytes.length < fuel)
  | _, c, _, _, 0, _ => Or.inr ⟨by omega, runsOut_failAhead rfl c⟩
  | .last k b v a, c, w, rest, fuel + 1, h => by
    have h1 : c.ahead = (blankBytes w ++ k.bytes) ++ (blankBytes b ++ (v.bytes ++ (blankBytes a ++ byte '}' :: rest))) := by
      rw [h]; simp [Syntax.Members.bytes]
    have h2 := Cursor.ahead_advance_of_length (n := w.length + k.bytes.length) h1 (by simp [blankBytes])
    have hv := Syntax.Value.skips v fuel h2 (endsNumber_blankBytes a (by decide))
    have h3 := Cursor.ahead_advance_of_length (n := b.length + v.bytes.length)
      (show _ = (blankBytes b ++ v.bytes) ++ (blankBytes a ++ byte '}' :: rest) by rw [h2, List.append_assoc])
      (by simp [blankBytes])
    refine Skips.of_run_eq (run_skipMembersFor_key k b fuel (by rw [h1, List.append_assoc]))
      (Skips.bind hv ?_ (Skips.of_ok ?_))
    · intro hf
      simp only [Syntax.Members.bytes, List.length_append] at hf
      omega
    · rw [run_listTail_close (by decide) (by decide) h3]
      simp only [Cursor.advance_advance]
      congr 2
      simp [Syntax.Members.bytes, blankBytes]
      omega
  | .cons k b v a n more, c, w, rest, fuel + 1, h => by
    have h1 : c.ahead = (blankBytes w ++ k.bytes) ++ (blankBytes b ++ (v.bytes ++
        (blankBytes a ++ byte ',' :: (blankBytes n ++ (more.bytes ++ byte '}' :: rest))))) := by
      rw [h]; simp [Syntax.Members.bytes]
    have h2 := Cursor.ahead_advance_of_length (n := w.length + k.bytes.length) h1 (by simp [blankBytes])
    have hv := Syntax.Value.skips v fuel h2 (endsNumber_blankBytes a (by decide))
    have h3 := Cursor.ahead_advance_of_length (n := b.length + v.bytes.length)
      (show _ = (blankBytes b ++ v.bytes) ++
        (blankBytes a ++ byte ',' :: (blankBytes n ++ (more.bytes ++ byte '}' :: rest))) by
        rw [h2, List.append_assoc])
      (by simp [blankBytes])
    have ih := Syntax.Members.skips more fuel (Cursor.ahead_advance_blank_past h3)
    refine Skips.of_run_eq (run_skipMembersFor_key k b fuel (by rw [h1, List.append_assoc]))
      (Skips.bind hv ?_ (Skips.of_run_eq (run_listTail_comma h3) ((ih.mono ?_).congr ?_)))
    · intro hf
      simp only [Syntax.Members.bytes, List.length_append] at hf
      omega
    · intro hf
      simp only [Syntax.Members.bytes, List.length_append, List.length_cons] at hf
      omega
    · simp only [Cursor.advance_advance]
      congr 1
      simp [Syntax.Members.bytes, blankBytes]
      omega

end

/-! ## Values cut short -/

/-- Where a cut falls in two lists in a row: strictly inside the first, or in the second. -/
theorem cut_append {α : Type} {pre post l₁ l₂ : List α} (h : pre ++ post = l₁ ++ l₂) :
    (∃ q, q ≠ [] ∧ pre ++ q = l₁) ∨ (∃ p, pre = l₁ ++ p ∧ p ++ post = l₂) := by
  rcases List.append_eq_append_iff.mp h with ⟨q, hq, hpost⟩ | ⟨p, hp, hl₂⟩
  · rcases q with _ | ⟨x, q⟩
    · exact Or.inr ⟨[], by simpa using hq.symm, by simpa using hpost⟩
    · exact Or.inl ⟨x :: q, List.cons_ne_nil x q, hq.symm⟩
  · exact Or.inr ⟨p, hp, hl₂.symm⟩

theorem prefix_blankBytes {pre q : List UInt8} {w : List Space} (h : pre ++ q = blankBytes w) :
    ∃ w₁ w₂, w = w₁ ++ w₂ ∧ pre = blankBytes w₁ := by
  obtain ⟨w₁, w₂, hw, h₁, -⟩ := List.map_eq_append_iff.mp h.symm
  exact ⟨w₁, w₂, hw, h₁.symm⟩

/-- A cut among blanks and then a byte: among the blanks, or after the byte. -/
theorem cut_blankBytes {pre post l : List UInt8} {w : List Space} {x : UInt8}
    (h : pre ++ post = blankBytes w ++ x :: l) :
    (∃ w₁, pre = blankBytes w₁) ∨ (∃ p, pre = blankBytes w ++ x :: p ∧ p ++ post = l) := by
  rcases cut_append h with ⟨q, -, hq⟩ | ⟨p, hp, hpost⟩
  · obtain ⟨w₁, -, -, hw₁⟩ := prefix_blankBytes hq
    exact Or.inl ⟨w₁, hw₁⟩
  · rcases p with _ | ⟨y, p⟩
    · exact Or.inl ⟨w, by simpa using hp⟩
    · simp only [List.cons_append, List.cons.injEq] at hpost
      obtain ⟨rfl, hpost⟩ := hpost
      exact Or.inr ⟨p, hp, hpost⟩

theorem endsNumber_of_append_eq {pre post l : List UInt8} (h : pre ++ post = l) (hl : endsNumber l = true) :
    endsNumber pre = true := by
  cases pre with
  | nil => rfl
  | cons b pre =>
    subst h
    exact hl

theorem runsOut_skipValueFor_blanks {c : Cursor} {w : List Space} (h : c.ahead = blankBytes w) :
    ∀ fuel, RunsOut (skipValueFor fuel) c
  | 0 => runsOut_failAhead rfl c
  | fuel + 1 => by
    rw [skipValueFor]
    exact RunsOut.of_ok (run_skipBlank (l := []) (by rw [h, List.append_nil]) (by simp))
      (runsOut_failAhead rfl _)

theorem runsOut_skipMembersFor_blanks {c : Cursor} {w : List Space} (h : c.ahead = blankBytes w) :
    ∀ fuel, RunsOut (skipMembersFor fuel) c
  | 0 => runsOut_failAhead rfl c
  | fuel + 1 => by
    rw [skipMembersFor]
    refine RunsOut.of_ok (run_skipBlank (l := []) (by rw [h, List.append_nil]) (by simp)) ?_
    exact (runsOut_failAhead rfl _).bind _

/-- A cut among blanks and what follows: among the blanks, or after them inside the rest. -/
theorem cut_blanks {pre post l : List UInt8} {w : List Space} (h : pre ++ post = blankBytes w ++ l) :
    (∃ w₁ w₂, w = w₁ ++ w₂ ∧ pre = blankBytes w₁) ∨
      (∃ x p, pre = blankBytes w ++ x :: p ∧ x :: p ++ post = l) := by
  rcases cut_append h with ⟨q, -, hq⟩ | ⟨p, hp, hpost⟩
  · exact Or.inl (prefix_blankBytes hq)
  · rcases p with _ | ⟨x, p⟩
    · exact Or.inl ⟨w, [], by simp, by simpa using hp⟩
    · exact Or.inr ⟨x, p, hp, hpost⟩

/-- A name cut short, after its first letter. -/
theorem runsOut_skipValueFor_literal (l : Literal) {c : Cursor} {w : List Space} {x : UInt8}
    {p post : List UInt8} (hpre : x :: p ++ post = l.text.map byte) (hpost : post ≠ [])
    (h : c.ahead = blankBytes w ++ x :: p) (fuel : Nat) : RunsOut (skipValueFor (fuel + 1)) c := by
  rw [skipValueFor]
  have h1 := Cursor.ahead_advance_blank h
  cases l <;>
    simp only [Literal.text, List.map_cons, List.map_nil, List.cons_append, List.cons.injEq] at hpre <;>
    obtain ⟨rfl, hp⟩ := hpre <;>
    refine RunsOut.of_ok (run_skipBlank h (head?_not_blank (by decide))) ?_ <;>
    simp +decide only [List.head?_cons, ↓reduceIte] <;>
    exact RunsOut.of_ok (run_bump _) (runsOut_expectWord _ p post _ hp hpost (Cursor.ahead_advance_one h1))

/-- A string cut short after its opening quote. -/
theorem runsOut_skipValueFor_string (s : List Piece) {c : Cursor} {w : List Space} {x : UInt8}
    {p post : List UInt8} (hpre : x :: p ++ post = stringBytes s) (hpost : post ≠ [])
    (h : c.ahead = blankBytes w ++ x :: p) (fuel : Nat) : RunsOut (skipValueFor (fuel + 1)) c := by
  simp only [stringBytes, List.cons_append, List.cons.injEq] at hpre
  obtain ⟨rfl, hp⟩ := hpre
  rw [skipValueFor]
  refine RunsOut.of_ok (run_skipBlank h (head?_not_blank (by decide))) ?_
  simp +decide only [List.head?_cons, ↓reduceIte]
  exact RunsOut.of_ok (run_bump _)
    (runsOut_skipString s hp hpost (Cursor.ahead_advance_one (Cursor.ahead_advance_blank h)))

/-- A cut before the last byte, after blanks, falls among the blanks. -/
theorem blanks_of_cut_before {p post : List UInt8} {w : List Space} {x : UInt8}
    (hp : p ++ post = blankBytes w ++ [x]) (hpost : post ≠ []) : ∃ w₁, p = blankBytes w₁ := by
  rcases cut_blankBytes hp with hw | ⟨q, -, hq⟩
  · exact hw
  · exact absurd (List.append_eq_nil_iff.mp hq).2 hpost

/-- An array or an object cut short after its opening bracket and blanks runs out. -/
theorem runsOut_skipValueFor_opened {c : Cursor} {w inner : List Space} {x : UInt8}
    (hx : x = byte '[' ∨ x = byte '{') (h : c.ahead = blankBytes w ++ x :: blankBytes inner)
    (fuel : Nat) : RunsOut (skipValueFor (fuel + 1)) c := by
  have h1 := Cursor.ahead_advance_one (Cursor.ahead_advance_blank h)
  rw [skipValueFor]
  rcases hx with rfl | rfl <;>
    refine RunsOut.of_ok (run_skipBlank h (head?_not_blank (by decide))) ?_ <;>
    simp +decide only [List.head?_cons, ↓reduceIte] <;>
    exact RunsOut.of_ok (run_bump _)
      (RunsOut.of_ok (run_skipBlank (l := []) (by rw [h1, List.append_nil]) (by simp))
        (runsOut_failAhead rfl _))

/-- An empty array or object cut short after its opening bracket: only blanks are left. -/
theorem runsOut_skipValueFor_empty {inner : List Space} {c : Cursor} {w : List Space} {x : UInt8}
    {p post : List UInt8}
    (hpre : x :: p ++ post = (Syntax.Value.emptyArray inner).bytes ∨
      x :: p ++ post = (Syntax.Value.emptyObject inner).bytes) (hpost : post ≠ [])
    (h : c.ahead = blankBytes w ++ x :: p) (fuel : Nat) : RunsOut (skipValueFor (fuel + 1)) c := by
  rcases hpre with hpre | hpre <;>
    simp only [Syntax.Value.bytes, List.cons_append, List.cons.injEq] at hpre <;>
    obtain ⟨rfl, hp⟩ := hpre <;>
    obtain ⟨w₁, rfl⟩ := blanks_of_cut_before hp hpost
  · exact runsOut_skipValueFor_opened (.inl rfl) h fuel
  · exact runsOut_skipValueFor_opened (.inr rfl) h fuel

/-! ### Marks at a cut -/

@[simp] theorem clear_zero : clear 0 = [] := rfl

@[simp] theorem blankBytes_nil : blankBytes [] = [] := rfl

theorem clear_add (a b : Nat) : clear (a + b) = clear a ++ clear b := List.replicate_add ..

theorem blankBytes_append (w₁ w₂ : List Space) : blankBytes (w₁ ++ w₂) = blankBytes w₁ ++ blankBytes w₂ :=
  List.map_append ..

theorem getElem?_append_length_add {L M : List Bool} (i : Nat) : (L ++ M)[L.length + i]? = M[i]? := by
  rw [List.getElem?_append_right (by omega), Nat.add_sub_cancel_left]

theorem getElem?_clear_append_add (k i : Nat) (M : List Bool) : (clear k ++ M)[k + i]? = M[i]? := by
  simpa using getElem?_append_length_add (L := clear k) (M := M) i

theorem ne_true_of_append {L M : List Bool} {i : Nat} (h : (L ++ M)[i]? ≠ some true) :
    L[i]? ≠ some true := by
  by_cases hi : i < L.length
  · rwa [List.getElem?_append_left hi] at h
  · rw [List.getElem?_eq_none (by omega)]
    simp

/-- A cut after the bracket or brace of a container and the blanks after it, read against the
container's marks, is a cut into its items or members. -/
theorem getElem?_opened_marks {before : List Space} {inner : List Bool} {y : UInt8}
    {p : List UInt8}
    (hm : (clear (before.length + 1) ++ inner ++ [false])[(blankBytes before ++ y :: p).length + 1]? ≠
      some true) :
    (clear ([] : List Space).length ++ inner)[(y :: p).length]? ≠ some true := by
  have hlen : (blankBytes before ++ y :: p).length + 1 = (before.length + 1) + (p.length + 1) := by
    simp [blankBytes]
    omega
  rw [hlen, List.append_assoc, getElem?_clear_append_add] at hm
  simpa using ne_true_of_append hm

/-- A cut after a separating comma, read against the marks of the items or members, is a cut
into the ones that follow. -/
theorem getElem?_after_comma {pre : List UInt8} {marks rest : List Bool}
    (hl : pre.length = marks.length) {a : List Space} {p : List UInt8}
    (hm : (marks ++ (clear (a.length + 1) ++ rest))[(pre ++ (blankBytes a ++ byte ',' :: p)).length]? ≠
      some true) :
    rest[p.length]? ≠ some true := by
  have hlen : (pre ++ (blankBytes a ++ byte ',' :: p)).length =
      marks.length + ((a.length + 1) + p.length) := by
    simp [blankBytes, hl]
    omega
  rwa [hlen, getElem?_append_length_add, getElem?_clear_append_add] at hm

theorem Syntax.Value.head?_topMarks (v : Syntax.Value) : v.topMarks.head? = some false := by
  cases v
  case literal l => cases l <;> rfl
  all_goals rfl

/-- A number read on its own may not be cut after its first byte. -/
theorem Syntax.Value.getElem?_topMarks_number {n : Syntax.Number} {i : Nat} (h0 : 0 < i)
    (hi : i < n.text.length) : (Syntax.Value.number n).topMarks[i]? = some true := by
  obtain ⟨j, rfl⟩ : ∃ j, i = j + 1 := ⟨i - 1, by omega⟩
  rw [Syntax.Value.topMarks, List.getElem?_cons_succ, List.getElem?_replicate, if_pos (by omega)]

/-- **A number cut right after a digit is skipped to the end of the input**: the digits so far
make a shorter number. -/
theorem run_skipValueFor_number_cut (n : Syntax.Number) {c : Cursor} {w : List Space} {x : UInt8}
    {p post : List UInt8} (hpre : x :: p ++ post = (Syntax.Value.number n).bytes)
    (hm : n.marks[p.length + 1]? ≠ some true) (h : c.ahead = blankBytes w ++ x :: p) (fuel : Nat) :
    (skipValueFor (fuel + 1)).run.run c = (.ok (), c.advance (w.length + (p.length + 1))) := by
  rw [Syntax.Value.bytes] at hpre
  have hlen : p.length + 1 ≤ n.text.length := by
    have := congrArg List.length hpre
    simp only [List.length_append, List.length_cons, List.length_map] at this
    omega
  have hcut : x :: p = (n.text.take (p.length + 1)).map byte := by
    rw [List.map_take, ← hpre]
    exact (List.take_left' (by simp)).symm
  obtain ⟨n', hn'⟩ := n.exists_take (Nat.succ_pos _) fun hi => Syntax.Number.endsInDigit_of_marks hi hm
  have h' : c.ahead = blankBytes w ++ (n'.text.map byte ++ []) := by rw [h, hn', ← hcut, List.append_nil]
  rw [run_skipValueFor_number n' h' rfl fuel, hn', List.length_take, Nat.min_eq_left hlen]

/-- **An item or a member's value cut short runs out with what follows it.** A number cut right
after a digit is read whole and the input ends before what follows; any other value runs out
itself, as `hv` says. -/
theorem runsOut_item {v : Syntax.Value} {c : Cursor} {w : List Space} {pre post : List UInt8}
    {fuel : Nat} {close : Char} {next : Read Unit} {expected eof : Code} (he : eof.category = .eof)
    (hv : (clear w.length ++ v.topMarks)[pre.length]? ≠ some true → RunsOut (skipValueFor fuel) c)
    (hpre : pre ++ post = blankBytes w ++ v.bytes)
    (hm : (clear w.length ++ v.marks)[pre.length]? ≠ some true) (h : c.ahead = pre) :
    RunsOut (skipValueFor fuel >>= fun _ => listTail close next expected eof) c := by
  cases v
  case number n =>
    rcases cut_blanks hpre with ⟨w₁, -, -, rfl⟩ | ⟨x, p, rfl, hp⟩
    · exact (runsOut_skipValueFor_blanks h fuel).bind _
    cases fuel with
    | zero => exact (runsOut_failAhead rfl c).bind _
    | succ fuel =>
      have hlen : (blankBytes w ++ x :: p).length = w.length + (p.length + 1) := by simp [blankBytes]
      rw [hlen, getElem?_clear_append_add] at hm
      have hend := Cursor.ahead_advance_of_length (n := w.length + (p.length + 1))
        (show c.ahead = (blankBytes w ++ x :: p) ++ [] by rw [h, List.append_nil]) hlen
      exact RunsOut.of_ok (run_skipValueFor_number_cut n hp hm h fuel) (runsOut_listTail (a := []) he hend)
  all_goals exact (hv hm).bind _

/-- A member cut short inside its name, its colon or its value runs out before the rest of the
object is looked at. -/
theorem runsOut_skipMembersFor_key (k : Key) (b : List Space) (v : Syntax.Value) {c : Cursor}
    {w : List Space} {pre post : List UInt8} {fuel : Nat}
    (hpre : pre ++ post = blankBytes w ++ (k.bytes ++ (blankBytes b ++ v.bytes))) (hpost : post ≠ [])
    (hval : ∀ {c' : Cursor} {pre' post' : List UInt8}, pre' ++ post' = blankBytes b ++ v.bytes →
      post' ≠ [] → (clear b.length ++ v.marks)[pre'.length]? ≠ some true → c'.ahead = pre' →
        RunsOut (skipValueFor fuel >>= fun _ => listTail '}' (skipMembersFor fuel)
          .expectedObjectCommaOrEnd .eofWhileParsingObject) c')
    (hm : (clear (w.length + k.bytes.length + b.length) ++ v.marks)[pre.length]? ≠ some true)
    (h : c.ahead = pre) : RunsOut (skipMembersFor (fuel + 1)) c := by
  obtain ⟨name, colon⟩ := k
  rcases cut_blanks hpre with ⟨w₁, -, -, rfl⟩ | ⟨x, p, rfl, hp⟩
  · exact runsOut_skipMembersFor_blanks h (fuel + 1)
  simp only [Key.bytes, stringBytes, List.cons_append, List.append_assoc, List.cons.injEq] at hp
  obtain ⟨rfl, hp⟩ := hp
  have h1 := Cursor.ahead_advance_one (Cursor.ahead_advance_blank h)
  rw [skipMembersFor]
  refine RunsOut.of_ok (run_skipBlank h (head?_not_blank (by decide))) ?_
  simp +decide only [List.head?_cons, ↓reduceIte]
  refine RunsOut.of_ok (run_bump _) ?_
  -- inside the name, or after it
  have hp' : p ++ post = (name.flatMap Piece.bytes ++ [byte '"']) ++
      (blankBytes colon ++ byte ':' :: (blankBytes b ++ v.bytes)) := by
    rw [hp]; simp
  rcases cut_append hp' with ⟨q, hq, hpq⟩ | ⟨p2, rfl, hp2⟩
  · exact (runsOut_skipString name hpq hq h1).bind _
  rw [List.append_assoc, List.singleton_append] at h1
  refine RunsOut.of_ok (run_skipString name h1) ?_
  have h2 := Cursor.ahead_advance_past h1
  -- among the blanks before the colon, or after it
  rcases cut_blankBytes hp2 with ⟨c₁, rfl⟩ | ⟨p3, rfl, hp3⟩
  · exact RunsOut.of_ok (run_skipBlank (l := []) (by rw [h2, List.append_nil]) (by simp))
      ((runsOut_failAhead rfl _).bind _)
  refine RunsOut.of_ok (run_skipBlank h2 (head?_not_blank (by decide))) ?_
  simp +decide only [List.head?_cons, ↓reduceIte]
  refine RunsOut.of_ok (run_bump _)
    (hval hp3 hpost ?_ (Cursor.ahead_advance_one (Cursor.ahead_advance_blank h2)))
  -- the value's marks, seen from the start of the member
  have hlen : (blankBytes w ++ byte '"' :: (name.flatMap Piece.bytes ++ [byte '"'] ++
      (blankBytes colon ++ byte ':' :: p3))).length =
      (w.length + (Key.mk name colon).bytes.length) + p3.length := by
    simp [Key.bytes, stringBytes, blankBytes]
    omega
  rwa [hlen, clear_add, List.append_assoc, getElem?_clear_append_add] at hm

theorem endsNumber_blankBytes_only (w : List Space) : endsNumber (blankBytes w) = true := by
  cases w with
  | nil => rfl
  | cons s w => cases s <;> rfl

mutual

/-- **A value cut short runs out**, whatever the fuel, unless the cut falls inside a number
token. The cut may fall among the blanks before the value too. -/
theorem Syntax.Value.runsOut : ∀ (v : Syntax.Value) {c : Cursor} {w : List Space}
    {pre post : List UInt8} (fuel : Nat), pre ++ post = blankBytes w ++ v.bytes → post ≠ [] →
      (clear w.length ++ v.topMarks)[pre.length]? ≠ some true → c.ahead = pre →
        RunsOut (skipValueFor fuel) c
  | _, c, _, _, _, 0, _, _, _, _ => runsOut_failAhead rfl c
  | v, c, w, pre, post, fuel + 1, hpre, hpost, hm, h => by
    rcases cut_blanks hpre with ⟨w₁, -, -, rfl⟩ | ⟨x, p, rfl, hp⟩
    · exact runsOut_skipValueFor_blanks h (fuel + 1)
    have hm' : v.topMarks[p.length + 1]? ≠ some true := by
      have hlen : (blankBytes w ++ x :: p).length = w.length + (p.length + 1) := by simp [blankBytes]
      rwa [hlen, getElem?_clear_append_add] at hm
    have h1 := Cursor.ahead_advance_one (Cursor.ahead_advance_blank h)
    cases v with
    | literal l => exact runsOut_skipValueFor_literal l hp hpost h fuel
    | number n =>
      -- a cut after the first byte of a number is inside it
      have hlen := congrArg List.length hp
      have : post.length ≠ 0 := by simpa using hpost
      simp only [Syntax.Value.bytes, List.length_append, List.length_cons, List.length_map] at hlen
      exact absurd (Syntax.Value.getElem?_topMarks_number (by omega) (by omega)) hm'
    | string s => exact runsOut_skipValueFor_string s hp hpost h fuel
    | emptyArray inner => exact runsOut_skipValueFor_empty (.inl hp) hpost h fuel
    | emptyObject inner => exact runsOut_skipValueFor_empty (.inr hp) hpost h fuel
    | array before items =>
      simp only [Syntax.Value.bytes, List.cons_append, List.append_assoc, List.cons.injEq] at hp
      obtain ⟨rfl, hp⟩ := hp
      -- among the blanks after the bracket, or inside the items
      rcases cut_blanks hp with ⟨w₁, -, -, rfl⟩ | ⟨y, p', rfl, hp'⟩
      · exact runsOut_skipValueFor_opened (.inl rfl) h fuel
      obtain ⟨z, l, hi, hz, hclose⟩ := items.bytes_head
      obtain rfl : y = z := by simpa [hi] using congrArg List.head? hp'
      refine RunsOut.of_run_eq (run_skipValueFor_enterArray h hz hclose fuel)
        (Syntax.Items.runsOut items fuel
          (show y :: p' ++ post = blankBytes [] ++ (items.bytes ++ [byte ']']) by simpa using hp') hpost ?_
          (by simpa using Cursor.ahead_advance_blank h1))
      change (clear (before.length + 1) ++ _ ++ [false])[_]? ≠ some true at hm'
      exact getElem?_opened_marks hm'
    | object before members =>
      simp only [Syntax.Value.bytes, List.cons_append, List.append_assoc, List.cons.injEq] at hp
      obtain ⟨rfl, hp⟩ := hp
      -- among the blanks after the brace, or inside the members
      rcases cut_blanks hp with ⟨w₁, -, -, rfl⟩ | ⟨y, p', rfl, hp'⟩
      · exact runsOut_skipValueFor_opened (.inr rfl) h fuel
      obtain ⟨l, hmem⟩ := members.bytes_head
      obtain rfl : y = byte '"' := by simpa [hmem] using congrArg List.head? hp'
      refine RunsOut.of_run_eq (run_skipValueFor_enterObject h fuel)
        (Syntax.Members.runsOut members fuel
          (show byte '"' :: p' ++ post = blankBytes [] ++ (members.bytes ++ [byte '}']) by simpa using hp')
          hpost ?_
          (by simpa using Cursor.ahead_advance_blank h1))
      change (clear (before.length + 1) ++ _ ++ [false])[_]? ≠ some true at hm'
      exact getElem?_opened_marks hm'

/-- **The items of an array cut short run out.** -/
theorem Syntax.Items.runsOut : ∀ (items : Items) {c : Cursor} {w : List Space}
    {pre post : List UInt8} (fuel : Nat), pre ++ post = blankBytes w ++ (items.bytes ++ [byte ']']) →
      post ≠ [] → (clear w.length ++ items.marks)[pre.length]? ≠ some true → c.ahead = pre →
        RunsOut (skipItemsFor fuel) c
  | _, c, _, _, _, 0, _, _, _, _ => runsOut_failAhead rfl c
  | items, c, w, pre, post, fuel + 1, hpre, hpost, hm, h => by
    refine RunsOut.of_run_eq (run_skipItemsFor_succ fuel c) ?_
    cases items with
    | last v a =>
      have hpre' : pre ++ post = (blankBytes w ++ v.bytes) ++ (blankBytes a ++ [byte ']']) := by
        rw [hpre]; simp [Syntax.Items.bytes]
      rcases cut_append hpre' with ⟨q, hq, hpq⟩ | ⟨p, rfl, hp⟩
      · -- inside the item
        refine runsOut_item rfl (fun hm => Syntax.Value.runsOut v fuel hpq hq hm h) hpq ?_ h
        rw [Syntax.Items.marks, ← List.append_assoc] at hm
        exact ne_true_of_append hm
      -- after the item, blanks: the input ends before the bracket
      obtain ⟨a₁, rfl⟩ := blanks_of_cut_before hp hpost
      have hv := Syntax.Value.skips v fuel (by rw [h, List.append_assoc]) (endsNumber_blankBytes_only a₁)
      have h2 := Cursor.ahead_advance_of_length (n := w.length + v.bytes.length) h (by simp [blankBytes])
      exact RunsOut.of_skips hv (runsOut_listTail rfl h2)
    | cons v a n more =>
      have hpre' : pre ++ post = (blankBytes w ++ v.bytes) ++
          (blankBytes a ++ byte ',' :: (blankBytes n ++ (more.bytes ++ [byte ']']))) := by
        rw [hpre]; simp [Syntax.Items.bytes]
      rcases cut_append hpre' with ⟨q, hq, hpq⟩ | ⟨p, rfl, hp⟩
      · -- inside the item
        refine runsOut_item rfl (fun hm => Syntax.Value.runsOut v fuel hpq hq hm h) hpq ?_ h
        simp only [Syntax.Items.marks, List.append_assoc] at hm
        rw [← List.append_assoc] at hm
        exact ne_true_of_append hm
      have hv := Syntax.Value.skips v fuel (by rw [h, List.append_assoc])
        (endsNumber_of_append_eq hp (endsNumber_blankBytes a (by decide)))
      have h2 := Cursor.ahead_advance_of_length (n := w.length + v.bytes.length) h (by simp [blankBytes])
      refine RunsOut.of_skips hv ?_
      -- among the blanks after the item, or after the comma
      rcases cut_blankBytes hp with ⟨a₁, rfl⟩ | ⟨p', rfl, hp'⟩
      · exact runsOut_listTail rfl h2
      refine RunsOut.of_run_eq (run_listTail_comma h2)
        (Syntax.Items.runsOut more fuel hp' hpost ?_ (Cursor.ahead_advance_blank_past h2))
      have hmarks : clear w.length ++ (Items.cons v a n more).marks =
          (clear w.length ++ v.marks) ++ (clear (a.length + 1) ++ (clear n.length ++ more.marks)) := by
        simp [Syntax.Items.marks, clear_add]
      rw [hmarks] at hm
      exact getElem?_after_comma (by simp [blankBytes, v.length_marks]) hm

/-- **The members of an object cut short run out.** -/
theorem Syntax.Members.runsOut : ∀ (members : Members) {c : Cursor} {w : List Space}
    {pre post : List UInt8} (fuel : Nat), pre ++ post = blankBytes w ++ (members.bytes ++ [byte '}']) →
      post ≠ [] → (clear w.length ++ members.marks)[pre.length]? ≠ some true → c.ahead = pre →
        RunsOut (skipMembersFor fuel) c
  | _, c, _, _, _, 0, _, _, _, _ => runsOut_failAhead rfl c
  | members, c, w, pre, post, fuel + 1, hpre, hpost, hm, h => by
    cases members with
    | last k b v a =>
      have hpre' : pre ++ post = (blankBytes w ++ (k.bytes ++ (blankBytes b ++ v.bytes))) ++
          (blankBytes a ++ [byte '}']) := by
        rw [hpre]; simp [Syntax.Members.bytes]
      rcases cut_append hpre' with ⟨q, hq, hpq⟩ | ⟨p, rfl, hp⟩
      · -- inside the name, the colon or the value
        refine runsOut_skipMembersFor_key k b v hpq hq
          (fun hp hq hm h => runsOut_item rfl (fun hm => Syntax.Value.runsOut v fuel hp hq hm h) hp hm h)
          ?_ h
        have hmarks : clear w.length ++ (Members.last k b v a).marks =
            (clear (w.length + k.bytes.length + b.length) ++ v.marks) ++ clear a.length := by
          simp [Syntax.Members.marks, clear_add]
        rw [hmarks] at hm
        exact ne_true_of_append hm
      -- after the value, blanks: the input ends before the brace
      obtain ⟨a₁, rfl⟩ := blanks_of_cut_before hp hpost
      have h1 : c.ahead = (blankBytes w ++ k.bytes) ++ (blankBytes b ++ (v.bytes ++ blankBytes a₁)) := by
        rw [h]; simp
      have h2 := Cursor.ahead_advance_of_length (n := w.length + k.bytes.length) h1 (by simp [blankBytes])
      have hv := Syntax.Value.skips v fuel h2 (endsNumber_blankBytes_only a₁)
      have h3 := Cursor.ahead_advance_of_length (n := b.length + v.bytes.length)
        (show _ = (blankBytes b ++ v.bytes) ++ blankBytes a₁ by rw [h2, List.append_assoc])
        (by simp [blankBytes])
      exact RunsOut.of_run_eq (run_skipMembersFor_key k b fuel (by rw [h1, List.append_assoc]))
        (RunsOut.of_skips hv (runsOut_listTail rfl h3))
    | cons k b v a n more =>
      have hpre' : pre ++ post = (blankBytes w ++ (k.bytes ++ (blankBytes b ++ v.bytes))) ++
          (blankBytes a ++ byte ',' :: (blankBytes n ++ (more.bytes ++ [byte '}']))) := by
        rw [hpre]; simp [Syntax.Members.bytes]
      rcases cut_append hpre' with ⟨q, hq, hpq⟩ | ⟨p, rfl, hp⟩
      · -- inside the name, the colon or the value
        refine runsOut_skipMembersFor_key k b v hpq hq
          (fun hp hq hm h => runsOut_item rfl (fun hm => Syntax.Value.runsOut v fuel hp hq hm h) hp hm h)
          ?_ h
        have hmarks : clear w.length ++ (Members.cons k b v a n more).marks =
            (clear (w.length + k.bytes.length + b.length) ++ v.marks) ++
              (clear (a.length + 1 + n.length) ++ more.marks) := by
          simp [Syntax.Members.marks, clear_add]
        rw [hmarks] at hm
        exact ne_true_of_append hm
      have h1 : c.ahead = (blankBytes w ++ k.bytes) ++ (blankBytes b ++ (v.bytes ++ p)) := by
        rw [h]; simp
      have h2 := Cursor.ahead_advance_of_length (n := w.length + k.bytes.length) h1 (by simp [blankBytes])
      have hv := Syntax.Value.skips v fuel h2
        (endsNumber_of_append_eq hp (endsNumber_blankBytes a (by decide)))
      have h3 := Cursor.ahead_advance_of_length (n := b.length + v.bytes.length)
        (show _ = (blankBytes b ++ v.bytes) ++ p by rw [h2, List.append_assoc])
        (by simp [blankBytes])
      refine RunsOut.of_run_eq (run_skipMembersFor_key k b fuel (by rw [h1, List.append_assoc]))
        (RunsOut.of_skips hv ?_)
      -- among the blanks after the value, or after the comma
      rcases cut_blankBytes hp with ⟨a₁, rfl⟩ | ⟨p', rfl, hp'⟩
      · exact runsOut_listTail rfl h3
      refine RunsOut.of_run_eq (run_listTail_comma h3)
        (Syntax.Members.runsOut more fuel hp' hpost ?_ (Cursor.ahead_advance_blank_past h3))
      have hmarks : clear w.length ++ (Members.cons k b v a n more).marks =
          (clear (w.length + k.bytes.length + b.length) ++ v.marks) ++
            (clear (a.length + 1) ++ (clear n.length ++ more.marks)) := by
        simp [Syntax.Members.marks, clear_add]
      rw [hmarks] at hm
      exact getElem?_after_comma (by simp [blankBytes, v.length_marks]; omega) hm

end

/-! ## The whole loop -/

/-- A value's first byte opens a string, an array or an object exactly when the value ends
itself. -/
theorem Syntax.Value.opens_delimited (v : Syntax.Value) {x : UInt8} {l : List UInt8}
    (h : v.bytes = x :: l) : (x == byte '[' || x == byte '"' || x == byte '{') = v.delimited := by
  cases v with
  | literal lit =>
    cases lit <;> simp only [Syntax.Value.bytes, Literal.text, List.map_cons, List.cons.injEq] at h <;>
      obtain ⟨rfl, -⟩ := h <;> decide
  | number n =>
    obtain ⟨d, u, hd⟩ := n.unsigned_head
    cases hn : n.negative
    · simp only [Syntax.Value.bytes, Syntax.Number.text, hn, hd, Bool.false_eq_true, if_false,
        List.nil_append, List.map_cons, List.cons.injEq] at h
      obtain ⟨rfl, -⟩ := h
      simp only [byte_digitChar_beq (c := '[') (by simp) (by simp),
        byte_digitChar_beq (c := '"') (by simp) (by simp),
        byte_digitChar_beq (c := '{') (by simp) (by simp), Bool.or_self]
      rfl
    · simp only [Syntax.Value.bytes, Syntax.Number.text, hn, if_true, List.cons_append,
        List.nil_append, List.map_cons, List.cons.injEq] at h
      obtain ⟨rfl, -⟩ := h
      simp only [Syntax.Value.delimited]
      decide
  | _ =>
    simp only [Syntax.Value.bytes, stringBytes, List.cons_append, List.cons.injEq] at h
    obtain ⟨rfl, -⟩ := h
    simp only [Syntax.Value.delimited]
    decide

/-- **A whole value is skipped**: the loop's bound, one more than the bytes left, is enough. -/
theorem run_skipValue (v : Syntax.Value) {c : Cursor} {w : List Space} {rest : List UInt8}
    (h : c.ahead = blankBytes w ++ (v.bytes ++ rest)) (hr : endsNumber rest = true) :
    skipValue.run.run c = (.ok (), c.advance (w.length + v.bytes.length)) := by
  rw [skipValue, run_bind_of_ok (run_budget c)]
  refine (v.skips c.budget h hr).ok_of_enough ?_
  have := budget_gt (show c.ahead = (blankBytes w ++ v.bytes) ++ rest by rw [h, List.append_assoc])
  simp only [List.length_append] at this
  omega

/-- **A value cut short is no value yet**: skipping it runs out of input. -/
theorem runsOut_skipValue (v : Syntax.Value) {c : Cursor} {w : List Space} {pre post : List UInt8}
    (hpre : pre ++ post = blankBytes w ++ v.bytes) (hpost : post ≠ [])
    (hm : (clear w.length ++ v.topMarks)[pre.length]? ≠ some true) (h : c.ahead = pre) :
    RunsOut skipValue c := by
  rw [skipValue]
  exact RunsOut.of_ok (run_budget c) (v.runsOut c.budget hpre hpost hm h)

end PoolMonitor.Json
