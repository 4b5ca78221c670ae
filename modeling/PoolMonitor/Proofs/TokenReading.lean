import Mathlib
import PoolMonitor.Proofs.ValueSkipping
import PoolMonitor.Proofs.JsonMeaning
import PoolMonitor.Proofs.QueryAnswer
/-!
# Reading JSON tokens

The reader's token steps on the bytes of a JSON text (the `Syntax` of `JsonTexts`), against what
the tokens stand for (`JsonMeaning`): each step reads its whole token, stops right after it, and
gives the token's meaning.

* Strings, piece by piece: `run_readStringFor` collects the UTF-8 bytes of the characters the
  pieces stand for, so `run_readString` gives the string's text.
* Numbers: `run_readNumber`, through one lemma per loop of the number reader, gives the number
  a token stands for whenever it stands for one.
-/

namespace PoolMonitor.Json

open Syntax PoolMonitor.Text.Utf8

/-! ## Byte buffers -/

theorem toList_push (acc : ByteArray) (b : UInt8) : (acc.push b).toList = acc.toList ++ [b] := by
  rw [toList_byteArray, toList_byteArray]
  exact Array.toList_push

theorem toList_foldl_push (bs : List UInt8) (acc : ByteArray) :
    (bs.foldl ByteArray.push acc).toList = acc.toList ++ bs := by
  induction bs generalizing acc with
  | nil => simp
  | cons b bs ih => rw [List.foldl_cons, ih, toList_push, List.append_assoc, List.singleton_append]

theorem toList_append_byteArray (a b : ByteArray) : (a ++ b).toList = a.toList ++ b.toList := by
  rw [toList_byteArray, toList_byteArray, toList_byteArray, ByteArray.data_append, Array.toList_append]

theorem toList_toUTF8 (s : String) : s.toUTF8.toList = utf8 s.toList := by
  rw [toList_byteArray, String.toUTF8_eq_toByteArray, ← String.utf8Encode_toList, List.utf8Encode,
    List.toList_data_toByteArray]
  rfl

/-- A code point's UTF-8 bytes are appended to the buffer. -/
theorem toList_pushCodePoint (acc : ByteArray) (n : Nat) :
    (pushCodePoint acc n).toList = acc.toList ++ utf8 [Char.ofNat n] := by
  rw [pushCodePoint, toList_append_byteArray, toList_toUTF8, Char.toString_eq_singleton,
    String.toList_singleton]

/-! ## Strings -/

/-- Plain bytes are taken one loop step each. -/
theorem run_readStringFor_plain : ∀ (bs : List UInt8) (acc : ByteArray) {c : Cursor}
    {more : List UInt8} (fuel : Nat), (∀ b ∈ bs, PlainByte b) → c.ahead = bs ++ more →
      (readStringFor acc (fuel + bs.length)).run.run c =
        (readStringFor (bs.foldl ByteArray.push acc) fuel).run.run (c.advance bs.length)
  | [], _, _, _, _, _, _ => rfl
  | b :: bs, acc, c, more, fuel, hp, h => by
    have hb : PlainByte b := hp b List.mem_cons_self
    rw [List.cons_append] at h
    rw [List.length_cons, ← Nat.add_assoc, readStringFor, run_bind_of_ok (run_peek c)]
    simp only [h, List.head?_cons, beq_iff_eq, hb.1, hb.2.1, hb.2.2, if_false]
    rw [run_bind_of_ok (run_bump c), run_readStringFor_plain bs (acc.push b) fuel
      (fun x hx => hp x (List.mem_cons_of_mem _ hx)) (Cursor.ahead_advance_one h)]
    simp [Nat.add_comm]

/-- The closing quote ends the loop with the text of the bytes collected. -/
theorem run_readStringFor_quote (acc : ByteArray) {c : Cursor} {more : List UInt8}
    (h : c.ahead = byte '"' :: more) (fuel : Nat) :
    (readStringFor acc (fuel + 1)).run.run c =
      (.ok (decodeLossy (acc.toList.map (·.toNat))), c.advance 1) := by
  rw [readStringFor, run_bind_of_ok (run_peek c)]
  simp only [h, List.head?_cons, beq_self_eq_true, if_true]
  rw [run_bind_of_ok (run_bump c)]
  rfl

/-- A backslash starts an escape, which is read before the loop goes on. -/
theorem run_readStringFor_backslash (acc : ByteArray) {c : Cursor} {rest : List UInt8}
    (h : c.ahead = byte '\\' :: rest) (fuel : Nat) : (readStringFor acc (fuel + 1)).run.run c =
      (readEscape acc >>= fun acc => readStringFor acc fuel).run.run (c.advance 1) := by
  rw [readStringFor, run_bind_of_ok (run_peek c)]
  simp only [h, List.head?_cons, byte_backslash_ne_quote, beq_self_eq_true, Bool.false_eq_true,
    if_false, if_true]
  exact run_bind_of_ok (run_bump c) _

theorem simpleEscape_meaning (e : Escape) : simpleEscape (byte e.char) = some (byte e.meaning) := by
  cases e <;> rfl

theorem run_readEscape_simple (e : Escape) (acc : ByteArray) {c : Cursor} {more : List UInt8}
    (h : c.ahead = byte e.char :: more) :
    (readEscape acc).run.run c = (.ok (acc.push (byte e.meaning)), c.advance 1) := by
  rw [readEscape, run_bind_of_ok (run_next_cons h)]
  simp only [simpleEscape_meaning]
  rfl

theorem run_readEscape_unicode (acc : ByteArray) {c : Cursor} {more : List UInt8}
    (h : c.ahead = byte 'u' :: more) :
    (readEscape acc).run.run c = (readUnicodeEscape acc).run.run (c.advance 1) := by
  have hu : simpleEscape (byte 'u') = none := rfl
  rw [readEscape, run_bind_of_ok (run_next_cons h)]
  simp only [hu, beq_self_eq_true, if_true]

/-- Only a `\\u` escape stands for a code unit. -/
theorem Syntax.Piece.eq_unicode_of_unit {p : Piece} {n : Nat} (hp : p.unit = .inr n) :
    ∃ a b d e hx, p = .unicode a b d e hx ∧ n = hexWord a b d e := by
  cases p with
  | plain => simp [Piece.unit] at hp
  | escape => simp [Piece.unit] at hp
  | unicode a b d e hx => exact ⟨a, b, d, e, hx, rfl, (Sum.inr.inj hp).symm⟩

theorem run_readHex4_word {c : Cursor} {a b d e : Char} {more : List UInt8}
    (hx : [a, b, d, e].all isHexChar = true) (h : c.ahead = [byte a, byte b, byte d, byte e] ++ more) :
    readHex4.run.run c = (.ok (hexWord a b d e), c.advance 4) :=
  run_readHex4_value hx h

theorem run_expectInPair {x : UInt8} {c : Cursor} {more : List UInt8} (h : c.ahead = x :: more) :
    (expectInPair x).run.run c = (.ok (), c.advance 1) := by
  rw [expectInPair, run_bind_of_ok (run_peek c)]
  simp only [h, List.head?_cons, beq_self_eq_true, if_true]
  rfl

/-- A `\u` escape outside the surrogates stands for its code point. -/
theorem run_readUnicodeEscape_single (acc : ByteArray) {c : Cursor} {a b d e : Char}
    {more : List UInt8} (hx : [a, b, d, e].all isHexChar = true)
    (h : c.ahead = [byte a, byte b, byte d, byte e] ++ more)
    (hl : isLowSurrogate (hexWord a b d e) = false) (hh : isHighSurrogate (hexWord a b d e) = false) :
    (readUnicodeEscape acc).run.run c = (.ok (pushCodePoint acc (hexWord a b d e)), c.advance 4) := by
  simp only [isLowSurrogate, isHighSurrogate, Bool.and_eq_false_iff, decide_eq_false_iff_not,
    Nat.not_le] at hl hh
  rw [readUnicodeEscape, run_bind_of_ok (run_readHex4_word hx h)]
  rw [if_neg (show ¬(0xDC00 ≤ hexWord a b d e ∧ hexWord a b d e ≤ 0xDFFF) by omega),
    if_pos (show hexWord a b d e < 0xD800 ∨ hexWord a b d e > 0xDBFF by omega)]
  rfl

/-- Two `\u` escapes of a surrogate pair stand for one code point. -/
theorem run_readUnicodeEscape_pair (acc : ByteArray) {c : Cursor} {a b d e a' b' d' e' : Char}
    {more : List UInt8} (hx : [a, b, d, e].all isHexChar = true)
    (hx' : [a', b', d', e'].all isHexChar = true)
    (h : c.ahead = [byte a, byte b, byte d, byte e] ++
      (byte '\\' :: byte 'u' :: ([byte a', byte b', byte d', byte e'] ++ more)))
    (hh : isHighSurrogate (hexWord a b d e) = true) (hl : isLowSurrogate (hexWord a' b' d' e') = true) :
    (readUnicodeEscape acc).run.run c = (.ok (pushCodePoint acc ((hexWord a b d e - 0xD800) * 0x400 +
      (hexWord a' b' d' e' - 0xDC00) + 0x10000)), c.advance 10) := by
  simp only [isLowSurrogate, isHighSurrogate, Bool.and_eq_true, decide_eq_true_eq] at hl hh
  have h1 : (c.advance 4).ahead = _ := Cursor.ahead_advance_of_length h rfl
  have h2 := Cursor.ahead_advance_one h1
  have h3 := Cursor.ahead_advance_one h2
  rw [readUnicodeEscape, run_bind_of_ok (run_readHex4_word hx h)]
  rw [if_neg (show ¬(0xDC00 ≤ hexWord a b d e ∧ hexWord a b d e ≤ 0xDFFF) by omega),
    if_neg (show ¬(hexWord a b d e < 0xD800 ∨ hexWord a b d e > 0xDBFF) by omega)]
  rw [run_bind_of_ok (run_expectInPair h1), run_bind_of_ok (run_expectInPair h2),
    run_bind_of_ok (run_readHex4_word hx' h3)]
  rw [if_neg (show ¬(hexWord a' b' d' e' < 0xDC00 ∨ hexWord a' b' d' e' > 0xDFFF) by omega)]
  simp only [Cursor.advance_advance]
  rfl

theorem Syntax.Escape.utf8_meaning (e : Escape) : utf8 [e.meaning] = [byte e.meaning] := by
  rw [utf8_cons, utf8_nil, List.append_nil, utf8EncodeChar_ascii (by cases e <;> decide)]

/-- A piece that stands for a character by itself is read in `p.steps` loop steps. -/
theorem run_readStringFor_char (p : Piece) {ch : Char} (hp : p.unit = .inl ch) (acc : ByteArray)
    {c : Cursor} {more : List UInt8} (h : c.ahead = p.bytes ++ more) :
    ∃ acc' : ByteArray, acc'.toList = acc.toList ++ utf8 [ch] ∧ ∀ fuel,
      (readStringFor acc (fuel + p.steps)).run.run c =
        (readStringFor acc' fuel).run.run (c.advance p.bytes.length) := by
  cases p with
  | plain x hx =>
    obtain rfl : x = ch := Sum.inl.inj hp
    refine ⟨(String.utf8EncodeChar x).foldl ByteArray.push acc, ?_, ?_⟩
    · rw [toList_foldl_push, utf8_cons, utf8_nil, List.append_nil]
    · exact fun fuel => run_readStringFor_plain _ acc fuel (fun b hb => plainByte_of_mem_utf8EncodeChar hx hb) h
  | escape e =>
    obtain rfl : e.meaning = ch := Sum.inl.inj hp
    refine ⟨acc.push (byte e.meaning), by rw [toList_push, Escape.utf8_meaning], fun fuel => ?_⟩
    simp only [Piece.bytes, Piece.steps, List.cons_append, List.nil_append] at h ⊢
    rw [run_readStringFor_backslash acc h,
      run_bind_of_ok (run_readEscape_simple e acc (Cursor.ahead_advance_one h))]
    simp
  | unicode => exact absurd hp (by simp [Piece.unit])

/-- A `\u` escape outside the surrogates is read in one loop step. -/
theorem run_readStringFor_unicode {a b d e : Char} (hx : [a, b, d, e].all isHexChar = true)
    (acc : ByteArray) {c : Cursor} {more : List UInt8}
    (h : c.ahead = (Piece.unicode a b d e hx).bytes ++ more)
    (hl : isLowSurrogate (hexWord a b d e) = false) (hh : isHighSurrogate (hexWord a b d e) = false)
    (fuel : Nat) : (readStringFor acc (fuel + 1)).run.run c =
      (readStringFor (pushCodePoint acc (hexWord a b d e)) fuel).run.run (c.advance 6) := by
  simp only [Piece.bytes, List.cons_append] at h
  have h2 : (c.advance 2).ahead = _ := Cursor.ahead_advance_of_length (show c.ahead = [_, _] ++ _ from h) rfl
  have he : (readEscape acc).run.run (c.advance 1) =
      (.ok (pushCodePoint acc (hexWord a b d e)), c.advance 6) := by
    rw [run_readEscape_unicode acc (Cursor.ahead_advance_one h), Cursor.advance_advance,
      run_readUnicodeEscape_single acc hx h2 hl hh, Cursor.advance_advance]
  rw [run_readStringFor_backslash acc h, run_bind_of_ok he]

/-- A surrogate pair of `\u` escapes is read in one loop step. -/
theorem run_readStringFor_pair {a b d e a' b' d' e' : Char} (hx : [a, b, d, e].all isHexChar = true)
    (hx' : [a', b', d', e'].all isHexChar = true) (acc : ByteArray) {c : Cursor} {more : List UInt8}
    (h : c.ahead = (Piece.unicode a b d e hx).bytes ++ ((Piece.unicode a' b' d' e' hx').bytes ++ more))
    (hh : isHighSurrogate (hexWord a b d e) = true) (hl : isLowSurrogate (hexWord a' b' d' e') = true)
    (fuel : Nat) : (readStringFor acc (fuel + 1)).run.run c =
      (readStringFor (pushCodePoint acc ((hexWord a b d e - 0xD800) * 0x400 +
        (hexWord a' b' d' e' - 0xDC00) + 0x10000)) fuel).run.run (c.advance 12) := by
  simp only [Piece.bytes, List.cons_append] at h
  have h2 : (c.advance 2).ahead = _ := Cursor.ahead_advance_of_length (show c.ahead = [_, _] ++ _ from h) rfl
  have he : (readEscape acc).run.run (c.advance 1) = (.ok (pushCodePoint acc ((hexWord a b d e - 0xD800) *
      0x400 + (hexWord a' b' d' e' - 0xDC00) + 0x10000)), c.advance 12) := by
    rw [run_readEscape_unicode acc (Cursor.ahead_advance_one h), Cursor.advance_advance,
      run_readUnicodeEscape_pair acc hx hx' h2 hh hl, Cursor.advance_advance]
  rw [run_readStringFor_backslash acc h, run_bind_of_ok he]

/-- One loop step that takes the characters `ds`, then the rest of the string. -/
theorem run_readStringFor_of_step (ds : List Char) {acc acc' : ByteArray} {c : Cursor}
    {k n fuel : Nat} {cs : List Char} {rest : List UInt8} (hacc : acc'.toList = acc.toList ++ utf8 ds)
    (hf : k + rest.length < fuel)
    (hstep : ∀ f, (readStringFor acc (f + k)).run.run c = (readStringFor acc' f).run.run (c.advance n))
    (hrest : ∀ f, rest.length < f → (readStringFor acc' f).run.run (c.advance n) =
      (.ok (decodeLossy ((acc'.toList ++ utf8 cs).map (·.toNat))), (c.advance n).advance (rest.length + 1))) :
    (readStringFor acc fuel).run.run c =
      (.ok (decodeLossy ((acc.toList ++ utf8 (ds ++ cs)).map (·.toNat))), c.advance (n + rest.length + 1)) := by
  rw [← Nat.sub_add_cancel (show k ≤ fuel by omega), hstep, hrest _ (by omega), hacc, utf8_append,
    List.append_assoc, Cursor.advance_advance, Nat.add_assoc]

theorem run_readStringFor {s : List Piece} {cs : List Char} (hs : chars s = some cs) (acc : ByteArray)
    {c : Cursor} {more : List UInt8} {fuel : Nat} (h : c.ahead = s.flatMap Piece.bytes ++ byte '"' :: more)
    (hf : (s.flatMap Piece.bytes).length < fuel) : (readStringFor acc fuel).run.run c =
      (.ok (decodeLossy ((acc.toList ++ utf8 cs).map (·.toNat))), c.advance ((s.flatMap Piece.bytes).length + 1)) := by
  fun_induction chars s generalizing cs acc c fuel with
  | case1 =>
    obtain rfl : [] = cs := Option.some.inj hs
    obtain ⟨fuel, rfl⟩ : ∃ f, fuel = f + 1 := ⟨fuel - 1, by simp at hf; omega⟩
    rw [run_readStringFor_quote acc h]
    simp
  | case2 p rest ch hp ih =>
    obtain ⟨cs, hcs, rfl⟩ := Option.map_eq_some_iff.mp hs
    rw [List.flatMap_cons, List.append_assoc] at h
    rw [List.flatMap_cons, List.length_append] at hf ⊢
    have hsteps := p.steps_le_length
    obtain ⟨acc', hacc, hstep⟩ := run_readStringFor_char p hp acc h
    exact run_readStringFor_of_step [ch] hacc (by omega) hstep
      (fun f hf => ih hcs acc' (Cursor.ahead_advance h) hf)
  | case3 => nomatch hs
  | case4 p rest n hp hl hh ih =>
    obtain ⟨cs, hcs, rfl⟩ := Option.map_eq_some_iff.mp hs
    obtain ⟨a, b, d, e, hx, rfl, rfl⟩ := Piece.eq_unicode_of_unit hp
    rw [List.flatMap_cons, List.append_assoc] at h
    rw [List.flatMap_cons, List.length_append] at hf ⊢
    refine run_readStringFor_of_step [_] (toList_pushCodePoint acc _) ?_
      (run_readStringFor_unicode hx acc h (by simpa using hl) (by simpa using hh))
      (fun f hf => ih hcs _ (Cursor.ahead_advance h) hf)
    simp only [Piece.bytes, List.length_cons, List.length_nil] at hf
    omega
  | case5 p n hp hl hh q rest m hq hm ih =>
    obtain ⟨cs, hcs, rfl⟩ := Option.map_eq_some_iff.mp hs
    obtain ⟨a, b, d, e, hx, rfl, rfl⟩ := Piece.eq_unicode_of_unit hp
    obtain ⟨a', b', d', e', hx', rfl, rfl⟩ := Piece.eq_unicode_of_unit hq
    rw [List.flatMap_cons, List.flatMap_cons, List.append_assoc, List.append_assoc] at h
    rw [List.flatMap_cons, List.flatMap_cons, List.length_append, List.length_append,
      ← Nat.add_assoc] at hf ⊢
    refine run_readStringFor_of_step [_] (toList_pushCodePoint acc _) ?_
      (run_readStringFor_pair hx hx' acc h (by simpa using hh) hm)
      (fun f hf => ih hcs _ (Cursor.ahead_advance (Cursor.ahead_advance h)) hf)
    simp only [Piece.bytes, List.length_cons, List.length_nil] at hf
    omega
  | case6 => nomatch hs
  | case7 => nomatch hs
  | case8 => nomatch hs

/-- The UTF-8 bytes of characters decode back to them. -/
theorem decodeLossy_utf8 (cs : List Char) : decodeLossy ((utf8 cs).map (·.toNat)) = String.ofList cs := by
  rw [decodeLossy, utf8, decodeFrom_utf8Encode]

/-- **A string is read as the text it stands for**, up to its closing quote. -/
theorem run_readString {s : List Piece} {str : String} (hs : stringValue s = some str) {c : Cursor}
    {more : List UInt8} (h : c.ahead = s.flatMap Piece.bytes ++ byte '"' :: more) :
    readString.run.run c = (.ok str, c.advance ((s.flatMap Piece.bytes).length + 1)) := by
  obtain ⟨cs, hcs, rfl⟩ := Option.map_eq_some_iff.mp hs
  rw [readString, run_bind_of_ok (run_budget c), run_readStringFor hcs _ h (budget_gt h)]
  simp only [ByteArray.toList_empty, List.nil_append, decodeLossy_utf8]

/-- A member's key is read from its opening quote to its closing one. -/
theorem run_readKey {s : List Piece} {str : String} (hs : stringValue s = some str) {c : Cursor}
    {more : List UInt8} (h : c.ahead = stringBytes s ++ more) :
    readKey.run.run c = (.ok str, c.advance (stringBytes s).length) := by
  have h1 : (c.advance 1).ahead = s.flatMap Piece.bytes ++ byte '"' :: more := by
    rw [Cursor.ahead_advance_one (l := s.flatMap Piece.bytes ++ [byte '"'] ++ more) h]
    simp
  rw [readKey, run_bind_of_ok (run_bump c), run_readString hs h1, Cursor.advance_advance]
  simp [stringBytes, Nat.add_comm]

/-! ## Numbers -/

/-- A step that leaves the cursor where it is, and whose result does not depend on the cursor
but for the position an error names. -/
def Steady {α : Type} (m : Read α) : Prop := ∃ o : Option α, ∀ c, ∃ x, m.run.run c = (x, c) ∧ x.toOption = o

theorem steady_pure {α : Type} (a : α) : Steady (pure a : Read α) := ⟨some a, fun _ => ⟨.ok a, rfl, rfl⟩⟩

theorem steady_fail {α : Type} (code : Code) : Steady (fail code : Read α) := ⟨none, fun _ => ⟨_, rfl, rfl⟩⟩

theorem steady_fail_bind {α β : Type} (code : Code) (f : α → Read β) : Steady (fail code >>= f) :=
  ⟨none, fun _ => ⟨_, rfl, rfl⟩⟩

/-- Scaling by a power of ten reads nothing. -/
theorem steady_scaleFor (positive : Bool) : ∀ (fuel : Nat) (f : Float) (exp : Int),
    Steady (scaleFor positive f exp fuel)
  | 0, _, _ => steady_pure _
  | fuel + 1, f, exp => by
    rw [scaleFor]
    dsimp only
    split_ifs
    all_goals first
      | exact steady_pure _
      | exact steady_fail _
      | exact steady_fail_bind _ _
      | exact steady_scaleFor positive fuel _ _

/-- Where the double of a significand and a power of ten is in range, it is the step's result. -/
theorem run_fromParts {positive : Bool} {sig : Nat} {exp : Int} {g : Float}
    (hv : partsValue positive sig exp = some g) (c : Cursor) :
    (fromParts positive sig exp).run.run c = (.ok g, c) := by
  obtain ⟨o, ho⟩ := steady_scaleFor positive 8 sig.toUInt64.toFloat exp
  obtain ⟨x, hx, hxo⟩ := ho (Cursor.ofString "")
  obtain ⟨y, hy, hyo⟩ := ho c
  have hg : y.toOption = some g := by
    rw [hyo, ← hxo, ← hv, partsValue, fromParts, hx]
  cases y with
  | ok y =>
    obtain rfl : y = g := Option.some.inj hg
    exact hy
  | error => exact absurd hg (by simp [Except.toOption])

theorem digitValue?_head {l : List UInt8} (h : ∀ b ∈ l.head?, digitValue? (some b) = none) :
    digitValue? l.head? = none := by
  cases l with
  | nil => rfl
  | cons b l => exact h b rfl

theorem Syntax.exponentDigitsValue_cons (positive : Bool) (sig : Nat) (before : Int) (up : Bool)
    (exp d : Nat) (ds : List Nat) :
    exponentDigitsValue positive sig before up exp (d :: ds) =
      if (exp * 10 + d : Int) > maxI32 then
        (if !(sig == 0) && up then none else some (if positive then 0.0 else -0.0))
      else exponentDigitsValue positive sig before up (exp * 10 + d) ds := by
  unfold exponentDigitsValue
  rw [exponentValue]
  split_ifs <;> rfl

/-- An exponent past 32 bits: the digits left are passed over and the number is zero. -/
theorem run_exponentOverflow {positive up : Bool} {sig : Nat} {g : Float} {ds : List (Fin 10)}
    {c : Cursor} {rest : List UInt8} (h : c.ahead = (ds.map digitChar).map byte ++ rest)
    (hr : endsNumber rest = true)
    (hv : (if !(sig == 0) && up then none else some (if positive then 0.0 else -0.0)) = some g) :
    (exponentOverflow positive (sig == 0) up).run.run c = (.ok g, c.advance ds.length) := by
  cases hz : (!(sig == 0) && up)
  · rw [hz, if_neg (by simp)] at hv
    rw [exponentOverflow, hz, if_neg (by simp), ← Option.some.inj hv]
    exact run_bind_of_ok (run_skipDigits (digitValue?_of_endsNumber hr) ds h) _
  · rw [hz] at hv
    exact absurd hv (by simp)

/-- **Exponent digits are read into the number they make**, up to the first byte past them. -/
theorem run_exponentDigitsFor (positive : Bool) (sig : Nat) (before : Int) (up : Bool)
    {rest : List UInt8} (hr : endsNumber rest = true) :
    ∀ (ds : List (Fin 10)) (exp : Nat) {c : Cursor} {fuel : Nat} {g : Float},
      c.ahead = (ds.map digitChar).map byte ++ rest → ds.length < fuel →
      exponentDigitsValue positive sig before up exp (ds.map (·.val)) = some g →
      (exponentDigitsFor positive sig before up exp fuel).run.run c = (.ok g, c.advance ds.length)
  | [], exp, c, fuel + 1, g, h, _, hv => by
    simp only [List.map_nil, List.nil_append] at h
    rw [exponentDigitsFor, run_bind_of_ok (run_peek c), h, digitValue?_head (digitValue?_of_endsNumber hr)]
    exact run_fromParts hv c
  | d :: ds, exp, c, fuel + 1, g, h, hf, hv => by
    simp only [List.map_cons, List.cons_append] at h
    rw [List.map_cons, Syntax.exponentDigitsValue_cons] at hv
    rw [exponentDigitsFor, run_bind_of_ok (run_peek c), h, List.head?_cons, digitValue?_digitChar]
    simp only
    rw [run_bind_of_ok (run_bump c)]
    by_cases hover : (exp * 10 + d.val : Int) > maxI32
    · rw [if_pos hover] at hv ⊢
      rw [run_exponentOverflow (Cursor.ahead_advance_one h) hr hv, Cursor.advance_advance, Nat.add_comm]
      rfl
    · rw [if_neg hover] at hv ⊢
      rw [run_exponentDigitsFor positive sig before up hr ds _ (Cursor.ahead_advance_one h)
        (by simp at hf; omega) hv, Cursor.advance_advance, Nat.add_comm]
      rfl

/-- After the exponent mark, the sign, if written, is passed over and gives the direction; the
exponent's digits follow. -/
theorem run_readExponent_digits (positive : Bool) (sig : Nat) (before : Int) (sign : Sign)
    (first : Fin 10) {c : Cursor} {more : List UInt8}
    (h : (c.advance 1).ahead = sign.text.map byte ++ byte (digitChar first) :: more) :
    (readExponent positive sig before).run.run c =
      (exponentDigitsFor positive sig before (sign != .minus) first.val
        (c.advance (sign.text.length + 2)).budget).run.run (c.advance (sign.text.length + 2)) := by
  rw [readExponent, run_bind_of_ok (run_bump c), run_bind_of_ok (run_peek _), h]
  -- the sign is passed over; each case goes on with `next` on the first digit, in `h`
  cases sign <;> simp only [Sign.text, List.map_nil, List.map_cons, List.nil_append, List.cons_append] at h ⊢
  on_goal 1 =>
    simp only [List.head?_cons, Option.some_beq_some,
      beq_false_of_ne (byte_digitChar_ne (c := '+') (by simp) (by simp)),
      beq_false_of_ne (byte_digitChar_ne (c := '-') (by simp) (by simp)), Bool.false_eq_true,
      if_false, pure_bind]
  on_goal 2 =>
    simp only [List.head?_cons, beq_self_eq_true, if_true]
    rw [run_bind_of_ok (run_bump _)]
    simp only [pure_bind]
    replace h := Cursor.ahead_advance_one h
  on_goal 3 =>
    simp only [List.head?_cons, Option.some_beq_some, if_true, beq_self_eq_true,
      show (byte '-' == byte '+') = false from rfl, Bool.false_eq_true, if_false]
    rw [run_bind_of_ok (run_bump _)]
    simp only [pure_bind]
    replace h := Cursor.ahead_advance_one h
  all_goals
    rw [run_bind_of_ok (run_next_cons h)]
    simp only [digitValue?_digitChar]
    rw [run_bind_of_ok (run_budget _)]
    simp only [Cursor.advance_advance]
    rfl

/-- **An exponent is read into the number it makes**, from its mark to the end of its digits. -/
theorem run_readExponent (positive : Bool) (sig : Nat) (before : Int) (e : Exponent) {c : Cursor}
    {rest : List UInt8} {g : Float} (h : c.ahead = e.text.map byte ++ rest) (hr : endsNumber rest = true)
    (hv : exponentPart positive sig before (some e) = some g) :
    (readExponent positive sig before).run.run c = (.ok g, c.advance e.text.length) := by
  obtain ⟨capital, sign, ⟨first, ds⟩⟩ := e
  simp only [Exponent.text, Digits.text, List.map_cons, List.map_append, List.cons_append,
    List.append_assoc] at h ⊢
  have h1 := Cursor.ahead_advance_one h
  have h2 : (c.advance (sign.text.length + 2)).ahead = (ds.map digitChar).map byte ++ rest := by
    have := Cursor.ahead_advance_one (Cursor.ahead_advance_of_length h1 (List.length_map _))
    rwa [Cursor.advance_advance, Cursor.advance_advance, Nat.add_comm 1, Nat.add_assoc] at this
  rw [run_readExponent_digits positive sig before sign first h1,
    run_exponentDigitsFor positive sig before _ hr ds first.val h2 (by simpa using budget_gt h2) hv]
  simp only [Cursor.advance_advance, List.length_cons, List.length_append, List.length_map]
  congr 2
  omega

/-- After the digits before it, the exponent part if one is written. -/
theorem run_markOrParts (positive : Bool) (sig : Nat) (exp : Int) (eo : Option Exponent) {c : Cursor}
    {rest : List UInt8} {g : Float} (h : c.ahead = (exponentText eo).map byte ++ rest)
    (hr : endsNumber rest = true) (hv : exponentPart positive sig exp eo = some g) :
    (if isExponentMark c.ahead.head? = true then readExponent positive sig exp
      else fromParts positive sig exp).run.run c = (.ok g, c.advance (exponentText eo).length) := by
  cases eo with
  | some e =>
    have hmark : isExponentMark c.ahead.head? = true := by
      rw [h]
      simp only [exponentText, Option.map_some, Option.getD_some, Exponent.text]
      cases e.capital <;> rfl
    rw [if_pos hmark]
    exact run_readExponent positive sig exp e h hr hv
  | none =>
    simp only [exponentText, Option.map_none, Option.getD_none, List.map_nil, List.nil_append] at h ⊢
    rw [h, isExponentMark_of_endsNumber hr, if_neg (by simp)]
    exact run_fromParts hv c

/-- Fraction digits past 64 bits of significand are passed over. -/
theorem run_decimalOverflow (positive : Bool) (sig : Nat) (exp : Int) (ds : List (Fin 10))
    (eo : Option Exponent) {c : Cursor} {rest : List UInt8} {g : Float}
    (h : c.ahead = (ds.map digitChar).map byte ++ ((exponentText eo).map byte ++ rest))
    (hr : endsNumber rest = true) (hv : exponentPart positive sig exp eo = some g) :
    (decimalOverflow positive sig exp).run.run c =
      (.ok g, c.advance (ds.length + (exponentText eo).length)) := by
  rw [decimalOverflow, run_bind_of_ok (run_skipDigits (digitValue?_exponentText eo hr) ds h),
    run_bind_of_ok (run_peek _),
    run_markOrParts positive sig exp eo (Cursor.ahead_advance_of_length h (by simp)) hr hv,
    Cursor.advance_advance]

/-- **Fraction digits are taken into the significand** while it holds 64 bits. -/
theorem run_fractionDigitsFor (positive : Bool) (before : Int) (eo : Option Exponent)
    {rest : List UInt8} (hr : endsNumber rest = true) :
    ∀ (ds : List (Fin 10)) (sig taken : Nat) {c : Cursor} {fuel : Nat} {g : Float},
      0 < taken + ds.length →
      c.ahead = (ds.map digitChar).map byte ++ ((exponentText eo).map byte ++ rest) →
      ds.length < fuel →
      exponentPart positive (fractionSig sig taken (ds.map (·.val))).1
        (before - (fractionSig sig taken (ds.map (·.val))).2) eo = some g →
      (fractionDigitsFor positive sig before (-(taken : Int)) fuel).run.run c =
        (.ok g, c.advance (ds.length + (exponentText eo).length))
  | [], sig, taken, c, fuel + 1, g, ht, h, _, hv => by
    simp only [List.map_nil, List.nil_append] at h
    rw [fractionDigitsFor, run_bind_of_ok (run_peek c), h,
      digitValue?_head (digitValue?_exponentText eo hr)]
    simp only [List.length_nil, Nat.zero_add] at ht ⊢
    rw [if_neg (by omega), run_bind_of_ok (run_peek c)]
    exact run_markOrParts positive sig _ eo h hr (by simpa [fractionSig, sub_eq_add_neg] using hv)
  | d :: ds, sig, taken, c, fuel + 1, g, _, h, hf, hv => by
    have h1 : c.ahead = byte (digitChar d) :: ((ds.map digitChar).map byte ++ ((exponentText eo).map byte ++ rest)) := h
    rw [List.map_cons, fractionSig] at hv
    rw [fractionDigitsFor, run_bind_of_ok (run_peek c), h1, List.head?_cons, digitValue?_digitChar]
    simp only
    by_cases hover : overflows sig d.val = true
    · -- the digit would overflow: it and the digits after it are dropped
      rw [if_pos hover] at hv ⊢
      exact run_decimalOverflow positive sig _ (d :: ds) eo h hr (by simpa [sub_eq_add_neg] using hv)
    · rw [if_neg hover] at hv ⊢
      rw [run_bind_of_ok (run_bump c), show -(taken : Int) - 1 = -((taken + 1 : Nat) : Int) by omega,
        run_fractionDigitsFor positive before eo hr ds (sig * 10 + d) (taken + 1) (by omega)
          (Cursor.ahead_advance_one h1) (by simp at hf; omega) hv, Cursor.advance_advance]
      simp only [List.length_cons]
      congr 2
      omega

/-- A fraction is read from its point, its digits taken into the significand. -/
theorem run_readFraction (positive : Bool) (sig : Nat) (before : Int) (f : Digits)
    (eo : Option Exponent) {c : Cursor} {rest : List UInt8} {g : Float}
    (h : c.ahead = (fractionText (some f) ++ exponentText eo).map byte ++ rest)
    (hr : endsNumber rest = true) (hv : tailValue positive sig before (some f) eo = some g) :
    (readFraction positive sig before).run.run c =
      (.ok g, c.advance (fractionText (some f) ++ exponentText eo).length) := by
  obtain ⟨first, ds⟩ := f
  have h1 : (c.advance 1).ahead = ((first :: ds).map digitChar).map byte ++ ((exponentText eo).map byte ++ rest) := by
    refine Cursor.ahead_advance_one (b := byte '.') ?_
    simp [h, fractionText, Digits.text]
  rw [readFraction, run_bind_of_ok (run_bump c), run_bind_of_ok (run_budget _),
    show (0 : Int) = -((0 : Nat) : Int) by simp,
    run_fractionDigitsFor positive before eo hr (first :: ds) sig 0 (by simp) h1 (by simpa using budget_gt h1) hv,
    Cursor.advance_advance]
  simp only [fractionText, Digits.text, Option.map_some, Option.getD_some, List.length_append,
    List.length_cons, List.length_map]
  congr 2
  omega

theorem point_exponentText (eo : Option Exponent) {rest : List UInt8} (hr : endsNumber rest = true) :
    ((((exponentText eo).map byte ++ rest).head? == some (byte '.'))) = false := by
  cases eo with
  | some e =>
    simp only [exponentText, Option.map_some, Option.getD_some, Exponent.text]
    cases e.capital <;> rfl
  | none => simpa [exponentText] using point_of_endsNumber hr

/-- After whole digits past 64 bits: the fraction, the exponent, or neither. -/
theorem run_pointOrMark (positive : Bool) (sig : Nat) (exp : Int) (fo : Option Digits)
    (eo : Option Exponent) {c : Cursor} {rest : List UInt8} {g : Float}
    (h : c.ahead = (fractionText fo ++ exponentText eo).map byte ++ rest) (hr : endsNumber rest = true)
    (hv : tailValue positive sig exp fo eo = some g) :
    (if (c.ahead.head? == some (byte '.')) = true then readFraction positive sig exp
      else if isExponentMark c.ahead.head? = true then readExponent positive sig exp
      else fromParts positive sig exp).run.run c =
      (.ok g, c.advance (fractionText fo ++ exponentText eo).length) := by
  cases fo with
  | some f =>
    rw [if_pos (by simp [h, fractionText])]
    exact run_readFraction positive sig exp f eo h hr hv
  | none =>
    simp only [fractionText, Option.map_none, Option.getD_none, List.nil_append] at h ⊢
    rw [if_neg (by rw [h, point_exponentText eo hr]; simp)]
    exact run_markOrParts positive sig exp eo h hr (by simpa [tailValue, fractionSig] using hv)

/-- **Whole digits past 64 bits of significand raise the power of ten**, one each. -/
theorem run_longIntegerFor (positive : Bool) (sig : Nat) (fo : Option Digits) (eo : Option Exponent)
    {rest : List UInt8} (hr : endsNumber rest = true) :
    ∀ (ds : List (Fin 10)) (exp : Int) {c : Cursor} {fuel : Nat} {g : Float},
      c.ahead = (ds.map digitChar).map byte ++ ((fractionText fo ++ exponentText eo).map byte ++ rest) →
      ds.length < fuel → tailValue positive sig (exp + ds.length) fo eo = some g →
      (longIntegerFor positive sig exp fuel).run.run c =
        (.ok g, c.advance (ds.length + (fractionText fo ++ exponentText eo).length))
  | [], exp, c, fuel + 1, g, h, _, hv => by
    simp only [List.map_nil, List.nil_append] at h
    have hd : digitValue? c.ahead.head? = none := by
      rw [h]
      exact digitValue?_head (digitValue?_numberTail fo eo hr)
    rw [longIntegerFor, run_bind_of_ok (run_peek c), hd]
    simp only [List.length_nil, Nat.zero_add]
    exact run_pointOrMark positive sig exp fo eo h hr (by simpa using hv)
  | d :: ds, exp, c, fuel + 1, g, h, hf, hv => by
    have h1 : c.ahead = byte (digitChar d) :: ((ds.map digitChar).map byte ++
        ((fractionText fo ++ exponentText eo).map byte ++ rest)) := h
    rw [longIntegerFor, run_bind_of_ok (run_peek c), h1, List.head?_cons, digitValue?_digitChar]
    simp only
    rw [run_bind_of_ok (run_bump c), run_longIntegerFor positive sig fo eo hr ds (exp + 1)
      (Cursor.ahead_advance_one h1) (by simp at hf; omega) (by rw [← hv]; congr 1; simp; omega),
      Cursor.advance_advance]
    simp only [List.length_cons]
    congr 2
    omega

/-- A number whose whole digits dropped some is a double. -/
theorem Syntax.numberValue_of_extra {positive : Bool} {sig extra : Nat} (fo : Option Digits)
    (eo : Option Exponent) (h : extra ≠ 0) :
    numberValue positive sig extra fo eo = (tailValue positive sig extra fo eo).map .float := by
  simp [numberValue, h]

/-- After the whole digits: a fraction or an exponent make a double, neither a whole number. -/
theorem run_afterWholeDigits (positive : Bool) (sig : Nat) (fo : Option Digits) (eo : Option Exponent)
    {c : Cursor} {rest : List UInt8} {x : Json.Number}
    (h : c.ahead = (fractionText fo ++ exponentText eo).map byte ++ rest) (hr : endsNumber rest = true)
    (hv : numberValue positive sig 0 fo eo = some x) :
    (afterWholeDigits positive sig).run.run c =
      (.ok x, c.advance (fractionText fo ++ exponentText eo).length) := by
  rw [afterWholeDigits, run_bind_of_ok (run_peek c)]
  cases fo with
  | some f =>
    obtain ⟨g, hg, rfl⟩ := Option.map_eq_some_iff.mp (by simpa [numberValue] using hv)
    rw [if_pos (by simp [h, fractionText]), run_bind_of_ok (run_readFraction positive sig 0 f eo h hr hg)]
    rfl
  | none =>
    simp only [fractionText, Option.map_none, Option.getD_none, List.nil_append] at h ⊢
    rw [if_neg (by rw [h, point_exponentText eo hr]; simp)]
    cases eo with
    | some e =>
      obtain ⟨g, hg, rfl⟩ := Option.map_eq_some_iff.mp (by simpa [numberValue] using hv)
      have hmark : isExponentMark c.ahead.head? = true := by
        rw [h]
        simp only [exponentText, Option.map_some, Option.getD_some, Exponent.text]
        cases e.capital <;> rfl
      rw [if_pos hmark, run_bind_of_ok (run_readExponent positive sig 0 e h hr
        (by simpa [tailValue, fractionSig] using hg))]
      rfl
    | none =>
      simp only [exponentText, Option.map_none, Option.getD_none, List.map_nil, List.nil_append] at h ⊢
      obtain rfl : integerValue positive sig = x := by simpa [numberValue] using hv
      rw [h, isExponentMark_of_endsNumber hr, if_neg (by simp), integerValue]
      split_ifs <;> rfl

/-- **Whole digits are taken into the significand** while it holds 64 bits. -/
theorem run_wholeDigitsFor (positive : Bool) (fo : Option Digits) (eo : Option Exponent)
    {rest : List UInt8} (hr : endsNumber rest = true) :
    ∀ (ds : List (Fin 10)) (sig : Nat) {c : Cursor} {fuel : Nat} {x : Json.Number},
      c.ahead = (ds.map digitChar).map byte ++ ((fractionText fo ++ exponentText eo).map byte ++ rest) →
      ds.length < fuel →
      numberValue positive (wholeSig sig (ds.map (·.val))).1 (wholeSig sig (ds.map (·.val))).2 fo eo = some x →
      (wholeDigitsFor positive sig fuel).run.run c =
        (.ok x, c.advance (ds.length + (fractionText fo ++ exponentText eo).length))
  | [], sig, c, fuel + 1, x, h, _, hv => by
    simp only [List.map_nil, List.nil_append] at h
    have hd : digitValue? c.ahead.head? = none := by
      rw [h]
      exact digitValue?_head (digitValue?_numberTail fo eo hr)
    rw [wholeDigitsFor, run_bind_of_ok (run_peek c), hd]
    simp only [List.length_nil, Nat.zero_add]
    exact run_afterWholeDigits positive sig fo eo h hr hv
  | d :: ds, sig, c, fuel + 1, x, h, hf, hv => by
    have h1 : c.ahead = byte (digitChar d) :: ((ds.map digitChar).map byte ++
        ((fractionText fo ++ exponentText eo).map byte ++ rest)) := h
    rw [List.map_cons, wholeSig] at hv
    rw [wholeDigitsFor, run_bind_of_ok (run_peek c), h1, List.head?_cons, digitValue?_digitChar]
    simp only
    by_cases hover : overflows sig d.val = true
    · -- the significand is full: the digits from this one on raise the power of ten
      rw [if_pos hover] at hv ⊢
      rw [numberValue_of_extra fo eo (by simp)] at hv
      obtain ⟨g, hg, rfl⟩ := Option.map_eq_some_iff.mp hv
      rw [run_bind_of_ok (run_budget c), run_bind_of_ok (run_longIntegerFor positive sig fo eo hr (d :: ds) 0 h
        (by simpa using budget_gt h) (by simpa [Nat.add_comm] using hg))]
      rfl
    · rw [if_neg hover] at hv ⊢
      rw [run_bind_of_ok (run_bump c), run_wholeDigitsFor positive fo eo hr ds (sig * 10 + d)
        (Cursor.ahead_advance_one h1) (by simp at hf; omega) hv, Cursor.advance_advance]
      simp only [List.length_cons]
      congr 2
      omega

/-- **A number token is read as the number it stands for**, from after its minus to the end of
its digits. -/
theorem run_readNumber (n : Syntax.Number) {c : Cursor} {rest : List UInt8} {x : Json.Number}
    (h : c.ahead = n.unsigned.map byte ++ rest) (hr : endsNumber rest = true) (hv : n.value = some x) :
    (readNumber (!n.negative)).run.run c = (.ok x, c.advance n.unsigned.length) := by
  obtain ⟨negative, whole, fo, eo⟩ := n
  simp only [Syntax.Number.unsigned, List.map_append, List.append_assoc] at h ⊢
  simp only [Number.value] at hv
  have htail := digitValue?_numberTail fo eo hr
  cases whole with
  | zero =>
    simp only [Whole.text, List.map_cons, List.map_nil, List.cons_append, List.nil_append] at h ⊢
    have h1 : (c.advance 1).ahead = (fractionText fo ++ exponentText eo).map byte ++ rest := by
      rw [Cursor.ahead_advance_one h, List.map_append, List.append_assoc]
    rw [readNumber, run_bind_of_ok (run_next_cons h)]
    have hz : digitValue? (some (byte '0')) = some 0 := by rfl
    simp only [hz]
    -- a zero stands alone: no digit follows it
    rw [run_bind_of_ok (run_peek _), h1, digitValue?_head htail]
    simp only [Option.isSome_none, Bool.false_eq_true, if_false]
    rw [run_afterWholeDigits _ 0 fo eo h1 hr hv]
    simp [Nat.add_comm]
  | digits first ds nz =>
    simp only [Whole.text, List.map_cons, List.cons_append] at h ⊢
    have h1 : (c.advance 1).ahead = (ds.map digitChar).map byte ++
        ((fractionText fo ++ exponentText eo).map byte ++ rest) := by
      rw [Cursor.ahead_advance_one h, List.map_append, List.append_assoc]
    obtain ⟨k, hk⟩ : ∃ k, first.val = k + 1 := ⟨first.val - 1, by have := Fin.val_ne_of_ne nz; simp at this; omega⟩
    rw [readNumber, run_bind_of_ok (run_next_cons h)]
    simp only [digitValue?_digitChar, hk]
    rw [run_bind_of_ok (run_budget _), ← hk, run_wholeDigitsFor _ fo eo hr ds first.val h1
      (by simpa using budget_gt h1) hv]
    simp only [Cursor.advance_advance, List.length_cons, List.length_append, List.length_map]
    congr 2
    omega

end PoolMonitor.Json
