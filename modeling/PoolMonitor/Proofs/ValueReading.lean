import Mathlib
import PoolMonitor.Proofs.TokenReading
import PoolMonitor.Proofs.ValueSkipping
/-!
# Reading a JSON value

On the UTF-8 bytes of a JSON text (`Syntax.Value`) whose strings and numbers all stand for
something (`Syntax.Value.toJson`), `readValueFor` reads the value the text stands for, when the
fuel covers its bytes and its arrays and objects nest fewer levels deep than the cursor's room
(`Syntax.Value.reads`, with `Syntax.Items.reads` and `Syntax.Members.reads` for the loops).

The loops are stated from the point where `nextItem` or `nextKey` has found the next item or
member, so that the first item and the ones after a comma are one case. The steps that open and
close arrays and objects (`run_inArray`, `run_inObject`), find items and members
(`run_nextItem_*`, `run_nextKey_*`) and pass a member's name (`Syntax.Key.run_readKey`) are shared
with the readers of records built on them.
-/

namespace PoolMonitor.Json

open Syntax

/-! ## Nesting -/

/-- The cursor with its nesting room changed. -/
def Cursor.withRoom (c : Cursor) (r : Nat) : Cursor := { c with room := r }

@[simp] theorem Cursor.ahead_withRoom (c : Cursor) (r : Nat) : (c.withRoom r).ahead = c.ahead := rfl

@[simp] theorem Cursor.room_withRoom (c : Cursor) (r : Nat) : (c.withRoom r).room = r := rfl

@[simp] theorem Cursor.room_advance (c : Cursor) (n : Nat) : (c.advance n).room = c.room := rfl

/-- Past the blanks and the bytes of a token after them, the rest is ahead. -/
theorem Cursor.ahead_advance_blank_then {c : Cursor} {w : List Space} {l tail : List UInt8}
    (h : c.ahead = blankBytes w ++ (l ++ tail)) : (c.advance (w.length + l.length)).ahead = tail :=
  Cursor.ahead_advance_of_length (by rw [h, List.append_assoc]) (by simp [blankBytes])

theorem Cursor.withRoom_advance (c : Cursor) (r n : Nat) :
    (c.withRoom r).advance n = (c.advance n).withRoom r := rfl

/-- Past an opening bracket and its blanks the body is ahead, one level in; past the body the rest
is ahead. -/
theorem Cursor.ahead_inside {c : Cursor} {before : List Space} {body tail : List UInt8}
    (h : (c.advance 1).ahead = blankBytes before ++ (body ++ tail)) (r : Nat) :
    (((c.advance 1).withRoom r).advance before.length).ahead = body ++ tail ∧
      (c.advance (1 + (before.length + body.length))).ahead = tail := by
  refine ⟨?_, ?_⟩
  · rw [Cursor.withRoom_advance, Cursor.ahead_withRoom]
    exact Cursor.ahead_advance_blank h
  · have h3 := Cursor.ahead_advance_blank_then h
    rwa [Cursor.advance_advance] at h3

@[simp] theorem Cursor.withRoom_room (c : Cursor) : c.withRoom c.room = c := rfl

theorem run_enterNested {c : Cursor} (h : 1 < c.room) :
    enterNested.run.run c = (.ok (), c.withRoom (c.room - 1)) := by
  rw [enterNested, run_bind_of_ok (run_get c), if_neg (by omega)]
  rfl

theorem run_leaveNested (c : Cursor) :
    leaveNested.run.run c = (.ok (), c.withRoom (c.room + 1)) := rfl

theorem run_observe_ok {α : Type} {m : Read α} {c c' : Cursor} {a : α}
    (h : m.run.run c = (.ok a, c')) : (observe m).run.run c = (.ok (.ok a), c') := by
  simp only [observe, tryCatch, tryCatchThe, MonadExceptOf.tryCatch, ExceptT.tryCatch, ExceptT.mk,
    ExceptT.run, Functor.map, ExceptT.map, StateT.run_bind] at h ⊢
  rw [h]
  rfl

@[simp] theorem Cursor.withRoom_withRoom (c : Cursor) (r r' : Nat) :
    (c.withRoom r).withRoom r' = c.withRoom r' := rfl

/-- A body between an opening bracket and its closing step, one nesting level in. -/
theorem run_nested {α : Type} (close : Read (Option Error)) {body : Read α} {c c' : Cursor} {a : α}
    {k : Nat} (hroom : 1 < c.room)
    (hbody : body.run.run ((c.advance 1).withRoom (c.room - 1)) =
      (.ok a, ((c.advance 1).withRoom (c.room - 1)).advance k))
    (hclose : close.run.run (c.advance (1 + k)) = (.ok none, c')) :
    (do enterNested; bump; let r ← observe body; leaveNested; settle r (← close) : Read α).run.run c =
      (.ok a, c') := by
  rw [Cursor.withRoom_advance, Cursor.advance_advance] at hbody
  rw [run_bind_of_ok (run_enterNested hroom), run_bind_of_ok (run_bump _), Cursor.withRoom_advance,
    run_bind_of_ok (run_observe_ok hbody), run_bind_of_ok (run_leaveNested _),
    Cursor.withRoom_withRoom, Cursor.room_withRoom, Nat.sub_add_cancel hroom.le,
    ← Cursor.room_advance c (1 + k), Cursor.withRoom_room, run_bind_of_ok hclose]
  rfl

theorem run_closeArray {c : Cursor} {w : List Space} {more : List UInt8}
    (h : c.ahead = blankBytes w ++ byte ']' :: more) :
    closeArray.run.run c = (.ok none, c.advance (w.length + 1)) := by
  rw [closeArray, run_bind_of_ok (run_skipBlank h (head?_not_blank (by decide)))]
  simp only [List.head?_cons, beq_self_eq_true, if_true]
  rw [run_bind_of_ok (run_bump _), Cursor.advance_advance]
  rfl

theorem run_closeObject {c : Cursor} {w : List Space} {more : List UInt8}
    (h : c.ahead = blankBytes w ++ byte '}' :: more) :
    closeObject.run.run c = (.ok none, c.advance (w.length + 1)) := by
  rw [closeObject, run_bind_of_ok (run_skipBlank h (head?_not_blank (by decide)))]
  simp only [List.head?_cons, beq_self_eq_true, if_true]
  rw [run_bind_of_ok (run_bump _), Cursor.advance_advance]
  rfl

/-- **An array's body is read one level in**, up to its closing bracket. -/
theorem run_inArray {α : Type} {body : Read α} {c : Cursor} {a : α} {k : Nat} {more : List UInt8}
    (hroom : 1 < c.room)
    (hbody : body.run.run ((c.advance 1).withRoom (c.room - 1)) =
      (.ok a, ((c.advance 1).withRoom (c.room - 1)).advance k))
    (hclose : (c.advance (1 + k)).ahead = byte ']' :: more) :
    (inArray body).run.run c = (.ok a, c.advance (1 + k + 1)) :=
  run_nested closeArray hroom hbody (run_closeArray (w := []) hclose)

/-- **An object's body is read one level in**, up to its closing brace. -/
theorem run_inObject {α : Type} {body : Read α} {c : Cursor} {a : α} {k : Nat} {more : List UInt8}
    (hroom : 1 < c.room)
    (hbody : body.run.run ((c.advance 1).withRoom (c.room - 1)) =
      (.ok a, ((c.advance 1).withRoom (c.room - 1)).advance k))
    (hclose : (c.advance (1 + k)).ahead = byte '}' :: more) :
    (inObject body).run.run c = (.ok a, c.advance (1 + k + 1)) :=
  run_nested closeObject hroom hbody (run_closeObject (w := []) hclose)

/-! ## Finding items and members -/

section Finding

variable {c : Cursor} {w n : List Space} {x : UInt8} {l : List UInt8}

theorem run_nextItem_first (h : c.ahead = blankBytes w ++ x :: l) (hx : isBlankByte x = false)
    (hclose : (x == byte ']') = false) : (nextItem true).run.run c = (.ok true, c.advance w.length) := by
  rw [nextItem, run_bind_of_ok (run_skipBlank h (head?_not_blank hx))]
  simp only [List.head?_cons, hclose, Bool.not_true, Bool.and_false, Bool.false_eq_true, if_false,
    if_true, itemFollows]
  rfl

theorem run_nextItem_comma (h : c.ahead = blankBytes w ++ byte ',' :: (blankBytes n ++ x :: l))
    (hx : isBlankByte x = false) (hclose : (x == byte ']') = false) :
    (nextItem false).run.run c = (.ok true, c.advance (w.length + 1 + n.length)) := by
  rw [nextItem, run_bind_of_ok (run_skipBlank h (head?_not_blank (by decide)))]
  simp +decide only [List.head?_cons, ↓reduceIte]
  rw [run_bind_of_ok (run_bump _), Cursor.advance_advance,
    run_bind_of_ok (run_skipBlank (Cursor.ahead_advance_blank_past h) (head?_not_blank hx))]
  simp only [List.head?_cons, itemFollows, hclose, Bool.false_eq_true, if_false, Cursor.advance_advance]
  rfl

theorem run_nextItem_close (first : Bool) (h : c.ahead = blankBytes w ++ byte ']' :: l) :
    (nextItem first).run.run c = (.ok false, c.advance w.length) := by
  rw [nextItem, run_bind_of_ok (run_skipBlank h (head?_not_blank (by decide)))]
  simp only [List.head?_cons, beq_self_eq_true, if_true]
  rfl

theorem run_nextKey_first (h : c.ahead = blankBytes w ++ byte '"' :: l) :
    (nextKey true).run.run c = (.ok true, c.advance w.length) := by
  rw [nextKey, run_bind_of_ok (run_skipBlank h (head?_not_blank (by decide)))]
  simp +decide only [List.head?_cons, ↓reduceIte, keyFollows]
  rfl

theorem run_nextKey_comma (h : c.ahead = blankBytes w ++ byte ',' :: (blankBytes n ++ byte '"' :: l)) :
    (nextKey false).run.run c = (.ok true, c.advance (w.length + 1 + n.length)) := by
  rw [nextKey, run_bind_of_ok (run_skipBlank h (head?_not_blank (by decide)))]
  simp +decide only [List.head?_cons, ↓reduceIte]
  rw [run_bind_of_ok (run_bump _), Cursor.advance_advance,
    run_bind_of_ok (run_skipBlank (Cursor.ahead_advance_blank_past h) (head?_not_blank (by decide)))]
  simp +decide only [List.head?_cons, keyFollows, ↓reduceIte, Cursor.advance_advance]
  rfl

theorem run_nextKey_close (first : Bool) (h : c.ahead = blankBytes w ++ byte '}' :: l) :
    (nextKey first).run.run c = (.ok false, c.advance w.length) := by
  rw [nextKey, run_bind_of_ok (run_skipBlank h (head?_not_blank (by decide)))]
  simp only [List.head?_cons, beq_self_eq_true, if_true]
  rfl

theorem run_expectColon (h : c.ahead = blankBytes w ++ byte ':' :: l) :
    expectColon.run.run c = (.ok (), c.advance (w.length + 1)) := by
  rw [expectColon, run_bind_of_ok (run_skipBlank h (head?_not_blank (by decide)))]
  simp only [List.head?_cons, beq_self_eq_true, if_true]
  rw [run_bump, Cursor.advance_advance]

end Finding

/-- A member's name is read from its quote; its blanks and colon follow. -/
theorem Syntax.Key.reads (k : Key) {name : String} (hk : stringValue k.name = some name)
    {c : Cursor} {more : List UInt8} (h : c.ahead = k.bytes ++ more) :
    readKey.run.run c = (.ok name, c.advance (stringBytes k.name).length) ∧
      (c.advance (stringBytes k.name).length).ahead = blankBytes k.beforeColon ++ byte ':' :: more := by
  have h' : c.ahead = stringBytes k.name ++ (blankBytes k.beforeColon ++ byte ':' :: more) := by
    rw [h]; simp [Key.bytes]
  exact ⟨run_readKey hk h', Cursor.ahead_advance h'⟩

theorem Syntax.Key.length_bytes (k : Key) :
    k.bytes.length = (stringBytes k.name).length + (k.beforeColon.length + 1) := by
  simp [Key.bytes, blankBytes]

/-! ## Values by kind -/

/-- A name is read after its blanks. -/
theorem run_readValueFor_literal (l : Literal) {c : Cursor} {w : List Space} {rest : List UInt8}
    {x : Json.Value} (h : c.ahead = blankBytes w ++ (l.text.map byte ++ rest))
    (hv : (Syntax.Value.literal l).toJson = some x) (fuel : Nat) :
    (readValueFor (fuel + 1)).run.run c = (.ok x, c.advance (w.length + l.text.length)) := by
  have hl : ∀ b ∈ (l.text.map byte ++ rest).head?, isBlankByte b = false := by
    cases l <;> simp [Literal.text] <;> decide
  rw [readValueFor, run_bind_of_ok (run_skipBlank h hl)]
  have h1 := Cursor.ahead_advance_blank h
  cases l <;> simp only [Syntax.Value.toJson, Option.some.injEq] at hv <;> subst hv <;>
    simp +decide only [Literal.text, List.map_cons, List.map_nil, List.cons_append,
      List.nil_append, List.head?_cons, ↓reduceIte] at h1 ⊢ <;>
    rw [run_bind_of_ok (run_bump _), run_bind_of_ok (run_expectWord _ rest _ (Cursor.ahead_advance_one h1))] <;>
    simp [Nat.add_assoc] <;> rfl

/-- A number is read after its blanks, from its minus or first digit. -/
theorem run_readValueFor_number (n : Syntax.Number) {c : Cursor} {w : List Space} {rest : List UInt8}
    {y : Json.Number} (h : c.ahead = blankBytes w ++ (n.text.map byte ++ rest))
    (hr : endsNumber rest = true) (hv : n.value = some y) (fuel : Nat) :
    (readValueFor (fuel + 1)).run.run c = (.ok (.number y), c.advance (w.length + n.text.length)) := by
  obtain ⟨x, l, hb, hx, -⟩ := (Syntax.Value.number n).bytes_head
  have hl : ∀ b ∈ (n.text.map byte ++ rest).head?, isBlankByte b = false := by
    rw [show n.text.map byte = x :: l from hb]
    simpa using hx
  rw [readValueFor, run_bind_of_ok (run_skipBlank h hl)]
  have h1 := Cursor.ahead_advance_blank h
  obtain ⟨d, u, hd⟩ := n.unsigned_head
  cases hn : n.negative
  · -- a first digit: the number is read from it
    have ht : n.text = n.unsigned := by simp [Syntax.Number.text, hn]
    rw [ht] at h1 ⊢
    have hn' : true = !n.negative := by simp [hn]
    simp only [hd, List.map_cons, List.cons_append, List.head?_cons]
    simp only [byte_digitChar_beq (c := 'n') (by simp) (by simp),
      byte_digitChar_beq (c := 't') (by simp) (by simp),
      byte_digitChar_beq (c := 'f') (by simp) (by simp),
      byte_digitChar_beq (c := '-') (by simp) (by simp), digitValue?_digitChar,
      Option.isSome_some, Bool.false_eq_true, if_false, if_true]
    rw [hn', run_bind_of_ok (run_readNumber n h1 hr hv), hd, Cursor.advance_advance]
    rfl
  · -- a minus, passed over before the number
    have ht : n.text = '-' :: n.unsigned := by simp [Syntax.Number.text, hn]
    rw [ht] at h1 ⊢
    have hn' : false = !n.negative := by simp [hn]
    simp +decide only [List.map_cons, List.cons_append, List.head?_cons, ↓reduceIte]
    rw [run_bind_of_ok (run_bump _), hn', run_bind_of_ok (run_readNumber n (Cursor.ahead_advance_one h1) hr hv)]
    simp [Nat.add_assoc, Nat.add_comm 1]
    rfl

/-- A string is read after its blanks. -/
theorem run_readValueFor_string (s : List Piece) {c : Cursor} {w : List Space} {rest : List UInt8}
    {str : String} (h : c.ahead = blankBytes w ++ (stringBytes s ++ rest)) (hs : stringValue s = some str)
    (fuel : Nat) :
    (readValueFor (fuel + 1)).run.run c = (.ok (.string str), c.advance (w.length + (stringBytes s).length)) := by
  rw [readValueFor, run_bind_of_ok (run_skipBlank h (by simp [stringBytes]; decide))]
  have h1 := Cursor.ahead_advance_blank h
  simp only [stringBytes, List.cons_append, List.append_assoc] at h1 ⊢
  simp +decide only [List.head?_cons, ↓reduceIte]
  rw [run_bind_of_ok (run_bump _), run_bind_of_ok (run_readString hs (Cursor.ahead_advance_one h1))]
  simp [Nat.add_assoc, Nat.add_comm 1]
  rfl

/-- An array is entered after its blanks: its items are read one level in. -/
theorem run_readValueFor_enterArray {c : Cursor} {w : List Space} {more : List UInt8}
    (h : c.ahead = blankBytes w ++ byte '[' :: more) (fuel : Nat) :
    (readValueFor (fuel + 1)).run.run c = (inArray (readItemsFor fuel true [])).run.run (c.advance w.length) := by
  rw [readValueFor, run_bind_of_ok (run_skipBlank h (head?_not_blank (by decide)))]
  simp +decide only [List.head?_cons, ↓reduceIte]

/-- An object is entered after its blanks: its members are read one level in. -/
theorem run_readValueFor_enterObject {c : Cursor} {w : List Space} {more : List UInt8}
    (h : c.ahead = blankBytes w ++ byte '{' :: more) (fuel : Nat) :
    (readValueFor (fuel + 1)).run.run c =
      (inObject (readMembersFor fuel true [])).run.run (c.advance w.length) := by
  rw [readValueFor, run_bind_of_ok (run_skipBlank h (head?_not_blank (by decide)))]
  simp +decide only [List.head?_cons, ↓reduceIte]

/-! ## The loops over items and members -/

theorem run_readItemsFor_close (first : Bool) (acc : List Json.Value) {c : Cursor} {w : List Space}
    {more : List UInt8} (h : c.ahead = blankBytes w ++ byte ']' :: more) (fuel : Nat) :
    (readItemsFor (fuel + 1) first acc).run.run c = (.ok (.array acc.reverse), c.advance w.length) := by
  rw [readItemsFor, run_bind_of_ok (run_nextItem_close first h)]
  rfl

theorem run_readItemsFor_next {first : Bool} {acc : List Json.Value} {c : Cursor} {m : Nat}
    (hnext : (nextItem first).run.run c = (.ok true, c.advance m)) (fuel : Nat) :
    (readItemsFor (fuel + 1) first acc).run.run c =
      (readValueFor fuel >>= fun v => readItemsFor fuel false (v :: acc)).run.run (c.advance m) := by
  rw [readItemsFor, run_bind_of_ok hnext]
  rfl

theorem run_readMembersFor_close (first : Bool) (acc : List (String × Json.Value)) {c : Cursor}
    {w : List Space} {more : List UInt8} (h : c.ahead = blankBytes w ++ byte '}' :: more) (fuel : Nat) :
    (readMembersFor (fuel + 1) first acc).run.run c = (.ok (.object acc), c.advance w.length) := by
  rw [readMembersFor, run_bind_of_ok (run_nextKey_close first h)]
  rfl

/-- A member's name, colon and value are read, and the loop goes on with the member put in. -/
theorem run_readMembersFor_member {first : Bool} {acc : List (String × Json.Value)} {c : Cursor}
    {m : Nat} (hnext : (nextKey first).run.run c = (.ok true, c.advance m)) (k : Key) {name : String}
    (hk : stringValue k.name = some name) {b : List Space} {more : List UInt8}
    (h : (c.advance m).ahead = k.bytes ++ (blankBytes b ++ more)) (fuel : Nat) :
    (readMembersFor (fuel + 1) first acc).run.run c =
      (readValueFor fuel >>= fun v => readMembersFor fuel false (Value.insertMember name v acc)).run.run
        ((c.advance m).advance k.bytes.length) := by
  obtain ⟨hread, hcolon⟩ := k.reads hk h
  rw [readMembersFor, run_bind_of_ok hnext]
  simp only [if_true]
  rw [run_bind_of_ok hread, run_bind_of_ok (run_expectColon hcolon), Cursor.advance_advance,
    k.length_bytes]

theorem Syntax.Value.length_bytes_pos (v : Syntax.Value) : 0 < v.bytes.length := by
  obtain ⟨x, l, hv, -⟩ := v.bytes_head
  simp [hv]

mutual

/-- **A value is read as the value it stands for**, with the blanks before it, when the fuel
covers its bytes and it nests fewer levels deep than the cursor's room. -/
theorem Syntax.Value.reads : ∀ (v : Syntax.Value) {c : Cursor} {w : List Space} {rest : List UInt8}
    {fuel : Nat} {x : Json.Value}, c.ahead = blankBytes w ++ (v.bytes ++ rest) →
    endsNumber rest = true → v.bytes.length ≤ fuel → v.depth < c.room → v.toJson = some x →
    (readValueFor fuel).run.run c = (.ok x, c.advance (w.length + v.bytes.length))
  | v, _, _, _, 0, _, _, _, hf, _, _ => absurd hf (by have := v.length_bytes_pos; omega)
  | .literal l, c, w, rest, fuel + 1, x, h, _, _, _, hv => by
    rw [run_readValueFor_literal l h hv fuel, Syntax.Value.bytes, List.length_map]
  | .number n, c, w, rest, fuel + 1, x, h, hr, _, _, hv => by
    obtain ⟨y, hy, rfl⟩ := Option.map_eq_some_iff.mp hv
    rw [run_readValueFor_number n h hr hy fuel, Syntax.Value.bytes, List.length_map]
  | .string s, c, w, rest, fuel + 1, x, h, _, _, _, hv => by
    obtain ⟨str, hs, rfl⟩ := Option.map_eq_some_iff.mp hv
    rw [run_readValueFor_string s h hs fuel, Syntax.Value.bytes]
  | .emptyArray inner, c, w, rest, fuel + 1, x, h, _, hf, hd, hv => by
    obtain rfl : Json.Value.array [] = x := Option.some.inj hv
    have h1 : c.ahead = blankBytes w ++ byte '[' :: (blankBytes inner ++ byte ']' :: rest) := by
      rw [h]; simp [Syntax.Value.bytes]
    obtain ⟨f, rfl⟩ : ∃ f, fuel = f + 1 := ⟨fuel - 1, by simp [Syntax.Value.bytes, blankBytes] at hf; omega⟩
    have h2 := Cursor.ahead_advance_one (Cursor.ahead_advance_blank h1)
    rw [run_readValueFor_enterArray h1, run_inArray (by simp [Syntax.Value.depth] at hd; simpa using hd)
      (run_readItemsFor_close true [] (by simpa [blankBytes] using h2) f)
      (by have h3 := Cursor.ahead_advance_blank h2; rwa [Cursor.advance_advance] at h3),
      Cursor.advance_advance]
    simp only [Syntax.Value.bytes, blankBytes, List.length_cons, List.length_append, List.length_map,
      List.length_nil]
    congr 3
    omega
  | .emptyObject inner, c, w, rest, fuel + 1, x, h, _, hf, hd, hv => by
    obtain rfl : Json.Value.object [] = x := Option.some.inj hv
    have h1 : c.ahead = blankBytes w ++ byte '{' :: (blankBytes inner ++ byte '}' :: rest) := by
      rw [h]; simp [Syntax.Value.bytes]
    obtain ⟨f, rfl⟩ : ∃ f, fuel = f + 1 := ⟨fuel - 1, by simp [Syntax.Value.bytes, blankBytes] at hf; omega⟩
    have h2 := Cursor.ahead_advance_one (Cursor.ahead_advance_blank h1)
    rw [run_readValueFor_enterObject h1, run_inObject (by simp [Syntax.Value.depth] at hd; simpa using hd)
      (run_readMembersFor_close true [] (by simpa [blankBytes] using h2) f)
      (by have h3 := Cursor.ahead_advance_blank h2; rwa [Cursor.advance_advance] at h3),
      Cursor.advance_advance]
    simp only [Syntax.Value.bytes, blankBytes, List.length_cons, List.length_append, List.length_map,
      List.length_nil]
    congr 3
    omega
  | .array before items, c, w, rest, fuel + 1, x, h, _, hf, hd, hv => by
    obtain ⟨xs, hxs, rfl⟩ := Option.map_eq_some_iff.mp hv
    obtain ⟨y, l, hi, hy, hclose⟩ := items.bytes_head
    have h1 : c.ahead = blankBytes w ++ byte '[' :: (blankBytes before ++ (items.bytes ++ byte ']' :: rest)) := by
      rw [h]; simp [Syntax.Value.bytes]
    have h2 := Cursor.ahead_advance_one (Cursor.ahead_advance_blank h1)
    have hroom : 1 < (c.advance w.length).room := by simp [Syntax.Value.depth] at hd ⊢; omega
    -- the items are read one level in, from the first one on
    have hnext := run_nextItem_first
      (c := ((c.advance w.length).advance 1).withRoom ((c.advance w.length).room - 1))
      (by rw [Cursor.ahead_withRoom, h2, hi]; rfl) hy hclose
    obtain ⟨hitems, hend⟩ := Cursor.ahead_inside h2 ((c.advance w.length).room - 1)
    have hbody : (readItemsFor fuel true []).run.run _ = _ := Syntax.Items.reads items hnext hitems
      (by simp [Syntax.Value.bytes, blankBytes] at hf; omega) (by simp [Syntax.Value.depth] at hd ⊢; omega) hxs
    rw [List.reverse_nil, List.nil_append] at hbody
    rw [run_readValueFor_enterArray h1, run_inArray hroom hbody hend, Cursor.advance_advance]
    simp only [Syntax.Value.bytes, blankBytes, List.length_cons, List.length_append, List.length_map,
      List.length_nil]
    congr 3
    omega
  | .object before members, c, w, rest, fuel + 1, x, h, _, hf, hd, hv => by
    obtain ⟨ys, hys, rfl⟩ := Option.map_eq_some_iff.mp hv
    obtain ⟨l, hm⟩ := members.bytes_head
    have h1 : c.ahead = blankBytes w ++ byte '{' :: (blankBytes before ++ (members.bytes ++ byte '}' :: rest)) := by
      rw [h]; simp [Syntax.Value.bytes]
    have h2 := Cursor.ahead_advance_one (Cursor.ahead_advance_blank h1)
    have hroom : 1 < (c.advance w.length).room := by simp [Syntax.Value.depth] at hd ⊢; omega
    -- the members are read one level in, from the first one on
    have hnext := run_nextKey_first
      (c := ((c.advance w.length).advance 1).withRoom ((c.advance w.length).room - 1))
      (by rw [Cursor.ahead_withRoom, h2, hm]; rfl)
    obtain ⟨hmembers, hend⟩ := Cursor.ahead_inside h2 ((c.advance w.length).room - 1)
    have hbody : (readMembersFor fuel true []).run.run _ = _ := Syntax.Members.reads members hnext hmembers
      (by simp [Syntax.Value.bytes, blankBytes] at hf; omega) (by simp [Syntax.Value.depth] at hd ⊢; omega) hys
    rw [run_readValueFor_enterObject h1, run_inObject hroom hbody hend, Cursor.advance_advance]
    simp only [Syntax.Value.bytes, blankBytes, List.length_cons, List.length_append, List.length_map,
      List.length_nil]
    congr 3
    omega

theorem Syntax.Items.reads : ∀ (items : Items) {c : Cursor} {first : Bool} {acc : List Json.Value}
    {m : Nat} {rest : List UInt8} {fuel : Nat} {xs : List Json.Value},
    (nextItem first).run.run c = (.ok true, c.advance m) →
    (c.advance m).ahead = items.bytes ++ byte ']' :: rest →
    items.bytes.length < fuel → items.depth < c.room → items.toJson = some xs →
    (readItemsFor fuel first acc).run.run c =
      (.ok (.array (acc.reverse ++ xs)), c.advance (m + items.bytes.length))
  | _, _, _, _, _, _, 0, _, _, _, hf, _, _ => absurd hf (Nat.not_lt_zero _)
  | .last v a, c, _, acc, m, rest, f + 1, xs, hnext, h, hf, hd, hv => by
    obtain ⟨x, hx, rfl⟩ := Option.map_eq_some_iff.mp hv
    have h1 : (c.advance m).ahead = blankBytes [] ++ (v.bytes ++ (blankBytes a ++ byte ']' :: rest)) := by
      rw [h]; simp [Syntax.Items.bytes]
    have hval : (readValueFor f).run.run _ = _ :=
      Syntax.Value.reads v h1 (endsNumber_blankBytes a (by decide))
        (by simp [Syntax.Items.bytes] at hf; omega) (by simp [Syntax.Items.depth] at hd ⊢; omega) hx
    -- after the last item only its blanks and the closing bracket are left
    rw [List.length_nil, Nat.zero_add] at hval
    have h2 := Cursor.ahead_advance (show _ = v.bytes ++ (blankBytes a ++ byte ']' :: rest) by simpa using h1)
    obtain ⟨g, rfl⟩ : ∃ g, f = g + 1 := ⟨f - 1, by
      have := v.length_bytes_pos; simp [Syntax.Items.bytes] at hf; omega⟩
    rw [run_readItemsFor_next hnext, run_bind_of_ok hval, run_readItemsFor_close false (x :: acc) h2 g,
      Cursor.advance_advance]
    simp [Syntax.Items.bytes, blankBytes]
  | .cons v a n more, c, _, acc, m, rest, f + 1, xs, hnext, h, hf, hd, hv => by
    simp only [Syntax.Items.toJson, Option.bind_eq_bind, Option.bind_eq_some_iff, Option.pure_def,
      Option.some.injEq] at hv
    obtain ⟨x, hx, xs', hxs', rfl⟩ := hv
    obtain ⟨y, l, hi, hy, hclose⟩ := more.bytes_head
    have h1 : (c.advance m).ahead = blankBytes [] ++ (v.bytes ++
        (blankBytes a ++ byte ',' :: (blankBytes n ++ (more.bytes ++ byte ']' :: rest)))) := by
      rw [h]; simp [Syntax.Items.bytes]
    have hval : (readValueFor f).run.run _ = _ :=
      Syntax.Value.reads v h1 (endsNumber_blankBytes a (by decide))
        (by simp [Syntax.Items.bytes] at hf; omega) (by simp [Syntax.Items.depth] at hd ⊢; omega) hx
    rw [List.length_nil, Nat.zero_add] at hval
    have h2 := Cursor.ahead_advance (show _ = v.bytes ++
      (blankBytes a ++ byte ',' :: (blankBytes n ++ (more.bytes ++ byte ']' :: rest))) by simpa using h1)
    -- a comma: the loop goes on at the next item
    have hnext' := run_nextItem_comma (by rw [h2, hi]; rfl) hy hclose
    have hmore := Cursor.ahead_advance_blank (Cursor.ahead_advance_blank_past h2)
    rw [Cursor.advance_advance] at hmore
    have ih : (readItemsFor f false (x :: acc)).run.run _ = _ := Syntax.Items.reads more hnext' hmore
      (by simp [Syntax.Items.bytes] at hf; have := v.length_bytes_pos; omega)
      (by simp [Syntax.Items.depth] at hd ⊢; omega) hxs'
    rw [run_readItemsFor_next hnext, run_bind_of_ok hval, ih]
    simp only [List.reverse_cons, List.append_assoc, List.singleton_append, Syntax.Items.bytes,
      blankBytes, List.length_append, List.length_cons, List.length_map, Cursor.advance_advance]
    congr 2
    omega

theorem Syntax.Members.reads : ∀ (members : Members) {c : Cursor} {first : Bool}
    {acc : List (String × Json.Value)} {m : Nat} {rest : List UInt8} {fuel : Nat}
    {ys : List (String × Json.Value)},
    (nextKey first).run.run c = (.ok true, c.advance m) →
    (c.advance m).ahead = members.bytes ++ byte '}' :: rest →
    members.bytes.length < fuel → members.depth < c.room → members.toJson acc = some ys →
    (readMembersFor fuel first acc).run.run c = (.ok (.object ys), c.advance (m + members.bytes.length))
  | _, _, _, _, _, _, 0, _, _, _, hf, _, _ => absurd hf (Nat.not_lt_zero _)
  | .last k b v a, c, _, acc, m, rest, f + 1, ys, hnext, h, hf, hd, hv => by
    simp only [Syntax.Members.toJson, Option.bind_eq_bind, Option.bind_eq_some_iff, Option.pure_def,
      Option.some.injEq] at hv
    obtain ⟨name, hk, x, hx, rfl⟩ := hv
    have h1 : (c.advance m).ahead = k.bytes ++ (blankBytes b ++ (v.bytes ++ (blankBytes a ++ byte '}' :: rest))) := by
      rw [h]; simp [Syntax.Members.bytes]
    have hval : (readValueFor f).run.run _ = _ :=
      Syntax.Value.reads v (Cursor.ahead_advance h1) (endsNumber_blankBytes a (by decide))
        (by simp [Syntax.Members.bytes] at hf; omega) (by simp [Syntax.Members.depth] at hd ⊢; omega) hx
    have h2 := Cursor.ahead_advance_blank_then (Cursor.ahead_advance h1)
    obtain ⟨g, rfl⟩ : ∃ g, f = g + 1 := ⟨f - 1, by
      have := v.length_bytes_pos; simp [Syntax.Members.bytes] at hf; omega⟩
    rw [run_readMembersFor_member hnext k hk h1 (g + 1), run_bind_of_ok hval,
      run_readMembersFor_close false _ h2 g]
    simp only [Syntax.Members.bytes, blankBytes, List.length_append, List.length_map,
      Cursor.advance_advance]
    congr 2
    omega
  | .cons k b v a n more, c, _, acc, m, rest, f + 1, ys, hnext, h, hf, hd, hv => by
    simp only [Syntax.Members.toJson, Option.bind_eq_bind, Option.bind_eq_some_iff] at hv
    obtain ⟨name, hk, x, hx, hys⟩ := hv
    have h1 : (c.advance m).ahead = k.bytes ++ (blankBytes b ++ (v.bytes ++
        (blankBytes a ++ byte ',' :: (blankBytes n ++ (more.bytes ++ byte '}' :: rest))))) := by
      rw [h]; simp [Syntax.Members.bytes]
    have hval : (readValueFor f).run.run _ = _ :=
      Syntax.Value.reads v (Cursor.ahead_advance h1) (endsNumber_blankBytes a (by decide))
        (by simp [Syntax.Members.bytes] at hf; omega) (by simp [Syntax.Members.depth] at hd ⊢; omega) hx
    have h2 := Cursor.ahead_advance_blank_then (Cursor.ahead_advance h1)
    -- a comma: the loop goes on at the next member's name
    obtain ⟨l, hm⟩ := more.bytes_head
    have hnext' := run_nextKey_comma (by rw [h2, hm]; rfl)
    have hmore := Cursor.ahead_advance_blank (Cursor.ahead_advance_blank_past h2)
    rw [Cursor.advance_advance] at hmore
    have ih : (readMembersFor f false (Value.insertMember name x acc)).run.run _ = _ :=
      Syntax.Members.reads more hnext' hmore
        (by simp [Syntax.Members.bytes, Syntax.Key.length_bytes] at hf; omega)
        (by simp [Syntax.Members.depth] at hd ⊢; omega) hys
    rw [run_readMembersFor_member hnext k hk h1 f, run_bind_of_ok hval, ih]
    simp only [Syntax.Members.bytes, blankBytes, List.length_append, List.length_cons, List.length_map,
      Cursor.advance_advance]
    congr 2
    omega

end

end PoolMonitor.Json
