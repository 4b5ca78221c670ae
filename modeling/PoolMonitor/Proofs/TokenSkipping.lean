import Mathlib
import PoolMonitor.Proofs.JsonTexts
/-!
# Skipping JSON tokens

`skipValue` passes over a value without building it, one token at a time. This module runs each
of its token steps on the UTF-8 bytes of a JSON text (the `Syntax` of `JsonTexts`) and proves, for
each, the two facts a reader of a stream needs: on a whole token the step stops right after it
(the `run_*` lemmas), and on a token cut short by the end of the input it stops with an error of
the end-of-input kind (the `runsOut_*` lemmas), which tells the reader to wait for more bytes.

* `RunsOut` and `Skips` say how a step ends; `Skips.bind` and `RunsOut.of_skips` chain them
  along a `do` block, with cursors given by their place in the input.
* Blanks, names and numbers: `run_skipBlank`, `run_expectWord` and `runsOut_expectWord`,
  `run_skipNumber`.
* Strings, piece by piece: `run_skipString` and `runsOut_skipString`, where the cut may fall
  inside an escape or inside a character's UTF-8 bytes.
-/

namespace PoolMonitor.Json

open Syntax

/-! ## Running a reading step -/

/-- The bytes from the cursor to the end of its text. -/
def Cursor.ahead (c : Cursor) : List UInt8 := c.bytes.data.toList.drop c.pos

/-- The cursor `n` bytes further on. -/
def Cursor.advance (c : Cursor) (n : Nat) : Cursor := { c with pos := c.pos + n }

@[simp] theorem Cursor.advance_advance (c : Cursor) (m n : Nat) :
    (c.advance m).advance n = c.advance (m + n) := by
  simp [Cursor.advance, Nat.add_assoc]

@[simp] theorem Cursor.advance_zero (c : Cursor) : c.advance 0 = c := rfl

theorem Cursor.ahead_advance {c : Cursor} {l₁ l₂ : List UInt8} (h : c.ahead = l₁ ++ l₂) :
    (c.advance l₁.length).ahead = l₂ := by
  simp only [Cursor.ahead, Cursor.advance] at h ⊢
  rw [← List.drop_drop, h, List.drop_left]

theorem Cursor.ahead_advance_one {c : Cursor} {b : UInt8} {l : List UInt8} (h : c.ahead = b :: l) :
    (c.advance 1).ahead = l :=
  Cursor.ahead_advance (show c.ahead = [b] ++ l from h)

theorem Cursor.ahead_advance_of_length {c : Cursor} {l₁ l₂ : List UInt8} {n : Nat}
    (h : c.ahead = l₁ ++ l₂) (hn : l₁.length = n) : (c.advance n).ahead = l₂ :=
  hn ▸ Cursor.ahead_advance h

/-- A step stops with an error that says the input ended too early. -/
def RunsOut {α : Type} (m : Read α) (c : Cursor) : Prop :=
  ∃ e c', m.run.run c = (.error e, c') ∧ e.code.category = .eof

/-- A step ends at cursor `c'`, unless it was given too little fuel (`enough` fails) and runs
out. -/
def Skips (m : Read Unit) (c c' : Cursor) (enough : Prop) : Prop :=
  m.run.run c = (.ok (), c') ∨ (¬enough ∧ RunsOut m c)

section Steps

variable {α β : Type} {m : Read α} {f : α → Read β} {c c' d : Cursor} {a : α}

theorem run_bind_of_ok (h : m.run.run c = (.ok a, c')) (f : α → Read β) :
    (m >>= f).run.run c = (f a).run.run c' := by
  simp only [ExceptT.run_bind, StateT.run_bind, h]
  rfl

theorem RunsOut.bind (h : RunsOut m c) (f : α → Read β) : RunsOut (m >>= f) c := by
  obtain ⟨e, c', hm, he⟩ := h
  refine ⟨e, c', ?_, he⟩
  simp only [ExceptT.run_bind, StateT.run_bind, hm]
  rfl

theorem RunsOut.of_ok (h : m.run.run c = (.ok a, c')) (hf : RunsOut (f a) c') :
    RunsOut (m >>= f) c := by
  obtain ⟨e, c'', hm, he⟩ := hf
  exact ⟨e, c'', by rw [run_bind_of_ok h, hm], he⟩

theorem RunsOut.of_run_eq {m' : Read α} (h : m.run.run c = m'.run.run c') (h' : RunsOut m' c') :
    RunsOut m c := by
  obtain ⟨e, c'', hm, he⟩ := h'
  exact ⟨e, c'', h.trans hm, he⟩

variable {m₁ m₂ : Read Unit} {e e₁ : Prop}

/-- Running out in a step that did not finish, or in what follows a step that did. -/
theorem RunsOut.of_skips {f : Unit → Read β} (h : Skips m₁ c c' e) (hf : RunsOut (f ()) c') :
    RunsOut (m₁ >>= f) c := by
  rcases h with h | ⟨-, h⟩
  · exact RunsOut.of_ok h hf
  · exact h.bind f

/-- A step that finishes, then a step that skips. -/
theorem Skips.bind_ok {f : α → Read Unit} (h : m.run.run c = (.ok a, c')) (h' : Skips (f a) c' d e) :
    Skips (m >>= f) c d e := by
  rcases h' with h' | ⟨hn, h'⟩
  · exact Or.inl (by rw [run_bind_of_ok h, h'])
  · exact Or.inr ⟨hn, RunsOut.of_ok h h'⟩

/-- Two skipping steps in a row; the fuel that is enough for both is enough for the first. -/
theorem Skips.bind (h₁ : Skips m₁ c c' e₁) (he : e → e₁) (h₂ : Skips m₂ c' d e) :
    Skips (m₁ >>= fun _ => m₂) c d e := by
  rcases h₁ with h₁ | ⟨hn, h₁⟩
  · exact Skips.bind_ok h₁ h₂
  · exact Or.inr ⟨fun h => hn (he h), h₁.bind _⟩

theorem Skips.of_ok (h : m₁.run.run c = (.ok (), d)) : Skips m₁ c d e :=
  Or.inl h

theorem Skips.of_run_eq (h : m₁.run.run c = m₂.run.run c') (h' : Skips m₂ c' d e) : Skips m₁ c d e := by
  rcases h' with h' | ⟨hn, h'⟩
  · exact Or.inl (h.trans h')
  · exact Or.inr ⟨hn, RunsOut.of_run_eq h h'⟩

theorem Skips.mono {e' : Prop} (h : Skips m₁ c d e) (he : e' → e) : Skips m₁ c d e' := by
  rcases h with h | ⟨hn, h⟩
  · exact Or.inl h
  · exact Or.inr ⟨fun h => hn (he h), h⟩

theorem Skips.congr {d' : Cursor} (h : Skips m₁ c d e) (hd : d = d') : Skips m₁ c d' e :=
  hd ▸ h

theorem Skips.ok_of_enough (h : Skips m₁ c d e) (he : e) : m₁.run.run c = (.ok (), d) := by
  rcases h with h | ⟨hn, -⟩
  · exact h
  · exact absurd he hn

end Steps

/-! ## Primitive steps -/

theorem getElem?_byteArray (b : ByteArray) (i : Nat) : b[i]? = (b.data.toList.drop i).head? := by
  rw [List.head?_drop]
  by_cases h : i < b.size
  · rw [getElem?_pos b i h, List.getElem?_eq_getElem (by simpa using h)]
    rfl
  · rw [getElem?_neg b i h, List.getElem?_eq_none (by simpa using h)]

theorem run_peek (c : Cursor) : peek.run.run c = (.ok c.ahead.head?, c) := by
  show ((Except.ok c.bytes[c.pos]? : Except Error (Option UInt8)), c) = _
  rw [getElem?_byteArray]
  rfl

theorem run_bump (c : Cursor) : bump.run.run c = (.ok (), c.advance 1) := rfl

theorem run_next_cons {c : Cursor} {b : UInt8} {l : List UInt8} (h : c.ahead = b :: l) :
    next.run.run c = (.ok (some b), c.advance 1) := by
  simp only [next, run_bind_of_ok (run_peek c), h, List.head?_cons, Option.isSome_some, if_true]
  rfl

theorem run_next_nil {c : Cursor} (h : c.ahead = []) : next.run.run c = (.ok none, c) := by
  simp only [next, run_bind_of_ok (run_peek c), h, List.head?_nil]
  rfl

theorem runsOut_failAhead {α : Type} {code : Code} (h : code.category = .eof) (c : Cursor) :
    RunsOut (failAhead code : Read α) c :=
  ⟨_, _, rfl, h⟩

theorem runsOut_fail {α : Type} {code : Code} (h : code.category = .eof) (c : Cursor) :
    RunsOut (fail code : Read α) c :=
  ⟨_, _, rfl, h⟩

theorem length_ahead (c : Cursor) : c.ahead.length = c.bytes.size - c.pos := by
  simp [Cursor.ahead]

/-! ## Blanks -/

theorem isBlankByte_space (s : Space) : isBlankByte (byte s.char) = true := by
  cases s <;> rfl

/-- Blanks are passed over, up to the first byte that is none. -/
theorem run_skipBlankFor {w : List Space} {l : List UInt8}
    (hl : ∀ b ∈ l.head?, isBlankByte b = false) :
    ∀ {c : Cursor} {fuel : Nat}, c.ahead = blankBytes w ++ l → w.length < fuel →
      (skipBlankFor fuel).run.run c = (.ok l.head?, c.advance w.length) := by
  induction w with
  | nil =>
    intro c fuel h hf
    obtain ⟨fuel, rfl⟩ : ∃ f, fuel = f + 1 := ⟨fuel - 1, by simp at hf; omega⟩
    rw [skipBlankFor, run_bind_of_ok (run_peek c)]
    simp only [blankBytes, List.map_nil, List.nil_append] at h
    rw [h]
    cases l with
    | nil => rfl
    | cons b l =>
      have hb : isBlankByte b = false := hl b rfl
      simp only [List.head?_cons, hb, Bool.false_eq_true, if_false]
      rfl
  | cons s w ih =>
    intro c fuel h hf
    obtain ⟨fuel, rfl⟩ : ∃ f, fuel = f + 1 := ⟨fuel - 1, by simp at hf; omega⟩
    rw [skipBlankFor, run_bind_of_ok (run_peek c)]
    simp only [blankBytes, List.map_cons, List.cons_append] at h
    simp only [h, List.head?_cons, isBlankByte_space, if_true]
    rw [run_bind_of_ok (run_bump c), ih (Cursor.ahead_advance_one h) (by simpa using hf)]
    simp [Nat.add_comm]

/-- **Blanks are passed over**, whatever the loop's bound: it is the number of bytes left. -/
theorem run_skipBlank {c : Cursor} {w : List Space} {l : List UInt8}
    (h : c.ahead = blankBytes w ++ l) (hl : ∀ b ∈ l.head?, isBlankByte b = false) :
    skipBlank.run.run c = (.ok l.head?, c.advance w.length) := by
  have hlen : w.length < c.budget := by
    have := congrArg List.length h
    simp only [length_ahead, List.length_append, blankBytes, List.length_map] at this
    unfold Cursor.budget
    omega
  exact run_skipBlankFor hl h hlen

/-! ## Names -/

theorem run_expectWord : ∀ (ws rest : List UInt8) (c : Cursor), c.ahead = ws ++ rest →
    (expectWord ws).run.run c = (.ok (), c.advance ws.length)
  | [], rest, c, _ => rfl
  | w :: ws, rest, c, h => by
    rw [expectWord, run_bind_of_ok (run_next_cons h)]
    simp only [beq_self_eq_true, if_true]
    rw [run_expectWord ws rest _ (Cursor.ahead_advance_one h)]
    simp [Nat.add_comm]

theorem runsOut_expectWord : ∀ (ws p q : List UInt8) (c : Cursor), p ++ q = ws → q ≠ [] →
    c.ahead = p → RunsOut (expectWord ws) c
  | [], p, q, c, h, hq, _ => absurd (List.append_eq_nil_iff.mp h).2 hq
  | w :: ws, [], q, c, _, _, hp => by
    rw [expectWord]
    exact RunsOut.of_ok (run_next_nil hp) (runsOut_fail rfl _)
  | w :: ws, b :: p, q, c, h, hq, hp => by
    rw [List.cons_append] at h
    obtain ⟨rfl, hpq⟩ := List.cons_eq_cons.mp h
    rw [expectWord]
    refine RunsOut.of_ok (run_next_cons hp) ?_
    simp only [beq_self_eq_true, if_true]
    exact runsOut_expectWord ws p q _ hpq hq (Cursor.ahead_advance_one hp)

/-! ## Digits and numbers -/

theorem toNat_byte_digitChar (d : Fin 10) : (byte (digitChar d)).toNat = 48 + d := by
  rw [byte, digitChar_toNat]
  exact UInt8.toNat_ofNat_of_lt' (by have := d.isLt; simp only [UInt8.size]; omega)

theorem digitValue?_digitChar (d : Fin 10) : digitValue? (some (byte (digitChar d))) = some d.val := by
  rw [digitValue?, toNat_byte_digitChar, if_pos (by omega)]
  simp

theorem run_skipDigitsFor {rest : List UInt8} (hr : ∀ b ∈ rest.head?, digitValue? (some b) = none) :
    ∀ (ds : List (Fin 10)) {c : Cursor} {fuel : Nat}, c.ahead = (ds.map digitChar).map byte ++ rest →
      ds.length < fuel → (skipDigitsFor fuel).run.run c = (.ok (), c.advance ds.length)
  | [], c, fuel + 1, h, _ => by
    rw [skipDigitsFor, run_bind_of_ok (run_peek c)]
    simp only [List.map_nil, List.nil_append] at h
    rw [h]
    cases rest with
    | nil => rfl
    | cons b rest => simp only [List.head?_cons, hr b rfl]; rfl
  | d :: ds, c, fuel + 1, h, hf => by
    rw [skipDigitsFor, run_bind_of_ok (run_peek c)]
    simp only [List.map_cons, List.cons_append] at h
    simp only [h, List.head?_cons, digitValue?_digitChar]
    rw [run_bind_of_ok (run_bump c), run_skipDigitsFor hr ds (Cursor.ahead_advance_one h) (by simpa using hf)]
    simp [Nat.add_comm]

theorem run_skipDigits {rest : List UInt8} (hr : ∀ b ∈ rest.head?, digitValue? (some b) = none)
    (ds : List (Fin 10)) {c : Cursor} (h : c.ahead = (ds.map digitChar).map byte ++ rest) :
    skipDigits.run.run c = (.ok (), c.advance ds.length) := by
  have hlen : ds.length < c.budget := by
    have := congrArg List.length h
    simp only [length_ahead, List.length_append, List.length_map] at this
    unfold Cursor.budget
    omega
  exact run_skipDigitsFor hr ds h hlen

theorem digitValue?_of_endsNumber {rest : List UInt8} (h : endsNumber rest = true) :
    ∀ b ∈ rest.head?, digitValue? (some b) = none := by
  intro b hb
  cases rest with
  | nil => cases hb
  | cons b' rest =>
    obtain rfl : b' = b := Option.some.inj hb
    simp only [endsNumber, continuesNumber, Bool.not_eq_true', Bool.or_eq_false_iff,
      Bool.and_eq_false_iff, decide_eq_false_iff_not, Nat.not_le] at h
    rw [digitValue?, if_neg (by omega)]

theorem toNat_byte {c : Char} (h : c.toNat < 256) : (byte c).toNat = c.toNat :=
  UInt8.toNat_ofNat_of_lt' (by simpa [UInt8.size] using h)

theorem byte_digitChar_ne {d : Fin 10} {c : Char} (h : c.toNat < 48 ∨ 57 < c.toNat)
    (hc : c.toNat < 256) : byte (digitChar d) ≠ byte c := by
  intro he
  have := congrArg UInt8.toNat he
  rw [toNat_byte_digitChar, toNat_byte hc] at this
  omega

/-- An optional byte passed over when a condition holds. -/
theorem run_ite_bump {α : Type} (cond : Bool) (k : Read α) (c : Cursor) :
    (if cond = true then (bump >>= fun _ => k) else k).run.run c =
      k.run.run (c.advance (if cond then 1 else 0)) := by
  cases cond
  · rfl
  · exact run_bind_of_ok (run_bump c) _

theorem run_skipExponent (e : Exponent) {c : Cursor} {rest : List UInt8}
    (h : c.ahead = e.text.map byte ++ rest) (hr : ∀ b ∈ rest.head?, digitValue? (some b) = none) :
    skipExponent.run.run c = (.ok (), c.advance e.text.length) := by
  obtain ⟨capital, sign, ⟨first, ds⟩⟩ := e
  simp only [Exponent.text, Digits.text, List.map_cons, List.map_append, List.cons_append,
    List.append_assoc] at h ⊢
  have h1 := Cursor.ahead_advance_one h
  rw [skipExponent, run_bind_of_ok (run_bump c), run_bind_of_ok (run_peek _), run_ite_bump]
  -- the sign, if written, is passed over; the first digit follows
  obtain ⟨hsign, h2⟩ : ((if ((c.advance 1).ahead.head? == some (byte '+') ||
        (c.advance 1).ahead.head? == some (byte '-')) then 1 else 0) = sign.text.length) ∧
      ((c.advance 1).advance sign.text.length).ahead =
        byte (digitChar first) :: ((ds.map digitChar).map byte ++ rest) := by
    cases sign with
    | none =>
      simp only [Sign.text, List.map_nil, List.nil_append] at h1
      refine ⟨?_, h1⟩
      simp only [h1, List.head?_cons, Option.some_beq_some,
        beq_false_of_ne (byte_digitChar_ne (c := '+') (by simp) (by simp)),
        beq_false_of_ne (byte_digitChar_ne (c := '-') (by simp) (by simp))]
      rfl
    | plus =>
      simp only [Sign.text, List.map_cons, List.map_nil, List.cons_append, List.nil_append] at h1
      exact ⟨by simp [h1, Sign.text], Cursor.ahead_advance_one h1⟩
    | minus =>
      simp only [Sign.text, List.map_cons, List.map_nil, List.cons_append, List.nil_append] at h1
      exact ⟨by simp [h1, Sign.text], Cursor.ahead_advance_one h1⟩
  rw [hsign, run_bind_of_ok (run_next_cons h2)]
  simp only [digitValue?_digitChar, Option.isSome_some, if_true]
  rw [run_skipDigits hr ds (Cursor.ahead_advance_one h2)]
  simp only [Cursor.advance_advance, List.length_cons, List.length_append, List.length_map]
  congr 2
  omega

theorem isExponentMark_of_endsNumber {rest : List UInt8} (h : endsNumber rest = true) :
    isExponentMark rest.head? = false := by
  cases rest with
  | nil => rfl
  | cons b rest =>
    simp only [endsNumber, continuesNumber, Bool.not_eq_true', Bool.or_eq_false_iff] at h
    simp only [isExponentMark, List.head?_cons, Option.some_beq_some, h.2, h.1.2, Bool.or_self]

theorem point_of_endsNumber {rest : List UInt8} (h : endsNumber rest = true) :
    (rest.head? == some (byte '.')) = false := by
  cases rest with
  | nil => rfl
  | cons b rest =>
    simp only [endsNumber, continuesNumber, Bool.not_eq_true', Bool.or_eq_false_iff] at h
    simp only [List.head?_cons, Option.some_beq_some, h.1.1.2]

theorem digitValue?_exponentText (eo : Option Exponent) {rest : List UInt8}
    (hr : endsNumber rest = true) :
    ∀ b ∈ ((exponentText eo).map byte ++ rest).head?, digitValue? (some b) = none := by
  cases eo with
  | none => simpa [exponentText] using digitValue?_of_endsNumber hr
  | some e =>
    intro b hb
    simp only [exponentText, Option.map_some, Option.getD_some, Exponent.text, List.map_cons,
      List.cons_append, List.head?_cons, Option.mem_def, Option.some.injEq] at hb
    subst hb
    cases e.capital <;> rfl

theorem run_exponentTail (eo : Option Exponent) {c : Cursor} {rest : List UInt8}
    (h : c.ahead = (exponentText eo).map byte ++ rest) (hr : endsNumber rest = true) :
    (peek >>= fun p => if isExponentMark p = true then skipExponent else pure ()).run.run c =
      (.ok (), c.advance (exponentText eo).length) := by
  rw [run_bind_of_ok (run_peek c), h]
  cases eo with
  | some e =>
    have hmark : isExponentMark (((exponentText (some e)).map byte ++ rest).head?) = true := by
      simp only [exponentText, Option.map_some, Option.getD_some, Exponent.text]
      cases e.capital <;> rfl
    rw [if_pos hmark]
    exact run_skipExponent e h (by
      have := digitValue?_of_endsNumber hr
      exact this)
  | none =>
    simp only [exponentText, Option.map_none, Option.getD_none, List.map_nil, List.nil_append,
      isExponentMark_of_endsNumber hr, Bool.false_eq_true, if_false]
    rfl

theorem run_skipFraction (f : Digits) (eo : Option Exponent) {c : Cursor} {rest : List UInt8}
    (h : c.ahead = (fractionText (some f) ++ exponentText eo).map byte ++ rest)
    (hr : endsNumber rest = true) :
    skipFraction.run.run c =
      (.ok (), c.advance (fractionText (some f) ++ exponentText eo).length) := by
  obtain ⟨first, ds⟩ := f
  simp only [fractionText, Option.map_some, Option.getD_some, Digits.text, List.map_cons,
    List.map_append, List.cons_append, List.append_assoc] at h ⊢
  have h1 := Cursor.ahead_advance_one h
  rw [skipFraction, run_bind_of_ok (run_bump c), run_bind_of_ok (run_peek _), h1]
  simp only [List.head?_cons, digitValue?_digitChar, Option.isNone_some, Bool.false_eq_true,
    if_false]
  have hd : (c.advance 1).ahead = ((first :: ds).map digitChar).map byte ++
      ((exponentText eo).map byte ++ rest) := by
    rw [h1]
    rfl
  rw [run_bind_of_ok (run_skipDigits (digitValue?_exponentText eo hr) _ hd),
    run_exponentTail eo (Cursor.ahead_advance_of_length hd (by simp)) hr]
  simp only [Cursor.advance_advance, List.length_cons, List.length_append, List.length_map]
  congr 2
  omega

theorem digitValue?_numberTail (fo : Option Digits) (eo : Option Exponent) {rest : List UInt8}
    (hr : endsNumber rest = true) :
    ∀ b ∈ ((fractionText fo ++ exponentText eo).map byte ++ rest).head?,
      digitValue? (some b) = none := by
  cases fo with
  | none => simpa [fractionText] using digitValue?_exponentText eo hr
  | some f =>
    intro b hb
    simp only [fractionText, Option.map_some, Option.getD_some, List.cons_append, List.map_cons,
      List.head?_cons, Option.mem_def, Option.some.injEq] at hb
    subst hb
    rfl

/-- What follows the whole part of a number: a fraction, an exponent, or neither. -/
theorem run_numberTail (fo : Option Digits) (eo : Option Exponent) {c : Cursor}
    {rest : List UInt8} (h : c.ahead = (fractionText fo ++ exponentText eo).map byte ++ rest)
    (hr : endsNumber rest = true) :
    (peek >>= fun p =>
      if (p == some (byte '.')) = true then skipFraction
      else if isExponentMark p = true then skipExponent else pure ()).run.run c =
      (.ok (), c.advance (fractionText fo ++ exponentText eo).length) := by
  rw [run_bind_of_ok (run_peek c)]
  cases fo with
  | some f =>
    have hpoint : (((fractionText (some f) ++ exponentText eo).map byte ++ rest).head? ==
        some (byte '.')) = true := by
      simp [fractionText]
    rw [h, if_pos hpoint]
    exact run_skipFraction f eo h hr
  | none =>
    simp only [fractionText, Option.map_none, Option.getD_none, List.nil_append] at h ⊢
    cases eo with
    | some e =>
      have hpoint : (((exponentText (some e)).map byte ++ rest).head? == some (byte '.')) = false := by
        simp only [exponentText, Option.map_some, Option.getD_some, Exponent.text]
        cases e.capital <;> rfl
      have hmark : isExponentMark ((exponentText (some e)).map byte ++ rest).head? = true := by
        simp only [exponentText, Option.map_some, Option.getD_some, Exponent.text]
        cases e.capital <;> rfl
      rw [h, hpoint, hmark]
      exact run_skipExponent e h (digitValue?_of_endsNumber hr)
    | none =>
      simp only [exponentText, Option.map_none, Option.getD_none, List.map_nil, List.nil_append] at h ⊢
      rw [h, point_of_endsNumber hr, isExponentMark_of_endsNumber hr]
      rfl

theorem run_skipNumber (n : Syntax.Number) {c : Cursor} {rest : List UInt8}
    (h : c.ahead = n.unsigned.map byte ++ rest) (hr : endsNumber rest = true) :
    skipNumber.run.run c = (.ok (), c.advance n.unsigned.length) := by
  obtain ⟨negative, whole, fo, eo⟩ := n
  simp only [Syntax.Number.unsigned, List.map_append, List.append_assoc] at h ⊢
  have htail := digitValue?_numberTail fo eo hr
  cases whole with
  | zero =>
    simp only [Whole.text, List.map_cons, List.map_nil, List.cons_append, List.nil_append] at h ⊢
    have h1 : (c.advance 1).ahead = (fractionText fo ++ exponentText eo).map byte ++ rest := by
      rw [Cursor.ahead_advance_one h, List.map_append, List.append_assoc]
    rw [skipNumber, run_bind_of_ok (run_next_cons h)]
    have hz : digitValue? (some (byte '0')) = some 0 := by rfl
    simp only [hz]
    -- a zero stands alone: no digit follows it
    have hnd : (digitValue? ((fractionText fo ++ exponentText eo).map byte ++ rest).head?).isSome = false := by
      cases hb : ((fractionText fo ++ exponentText eo).map byte ++ rest).head? with
      | none => rfl
      | some b => rw [htail b (by simpa using hb)]; rfl
    rw [run_bind_of_ok (run_peek _), h1, hnd]
    simp only [Bool.false_eq_true, if_false]
    rw [run_numberTail fo eo h1 hr]
    simp [Nat.add_comm]
  | digits first ds nz =>
    simp only [Whole.text, List.map_cons, List.cons_append] at h ⊢
    have h1 : (c.advance 1).ahead = (ds.map digitChar).map byte ++
        ((fractionText fo ++ exponentText eo).map byte ++ rest) := by
      rw [Cursor.ahead_advance_one h, List.map_append, List.append_assoc]
    obtain ⟨k, hk⟩ : ∃ k, first.val = k + 1 := ⟨first.val - 1, by have := Fin.val_ne_of_ne nz; simp at this; omega⟩
    rw [skipNumber, run_bind_of_ok (run_next_cons h)]
    simp only [digitValue?_digitChar, hk]
    rw [run_bind_of_ok (run_skipDigits htail ds h1),
      run_numberTail fo eo (Cursor.ahead_advance_of_length h1 (by simp)) hr]
    simp only [Cursor.advance_advance, List.length_cons, List.length_append, List.length_map]
    congr 2
    omega

/-! ## Bytes of a buffer -/

theorem toList_byteArray (bs : ByteArray) : bs.toList = bs.data.toList := by
  have hloop : ∀ i r, ByteArray.toList.loop bs i r = r.reverse ++ bs.data.toList.drop i := by
    intro i r
    fun_induction ByteArray.toList.loop bs i r with
    | case1 i r h ih =>
      have hi : i < bs.data.toList.length := by simpa using h
      rw [ih, List.reverse_cons, List.append_assoc, List.singleton_append,
        List.drop_eq_getElem_cons hi]
      simp [ByteArray.get!, getElem!_pos bs.data i (by simpa using h)]
    | case2 i r h =>
      rw [List.drop_eq_nil_of_le (by simpa using h), List.append_nil]
  rw [ByteArray.toList, hloop]; simp

theorem data_toList_extract (bs : ByteArray) (i j : Nat) :
    (bs.extract i j).data.toList = (bs.data.toList.drop i).take (j - i) := by
  rw [ByteArray.data_extract, Array.toList_extract, List.extract_eq_take_drop]

theorem toList_extract (bs : ByteArray) (i j : Nat) :
    (bs.extract i j).toList = (bs.data.toList.drop i).take (j - i) := by
  rw [toList_byteArray, data_toList_extract]

theorem run_get (c : Cursor) : (get : Read Cursor).run.run c = (.ok c, c) := rfl

/-! ## Strings -/

theorem hexValue?_byte {x : Char} (h : isHexChar x = true) : (hexValue? (byte x)).isSome := by
  have hx := isHexChar_ascii h
  simp only [isHexChar, Bool.or_eq_true, Bool.and_eq_true, decide_eq_true_eq] at h
  rw [hexValue?, toNat_byte (by omega)]
  split_ifs <;> first | rfl | omega

/-- Four hex digits are read as the number they write. -/
theorem run_readHex4_value {c : Cursor} {a b d e : Char} {more : List UInt8}
    (hx : [a, b, d, e].all isHexChar = true) (h : c.ahead = [byte a, byte b, byte d, byte e] ++ more) :
    readHex4.run.run c = (.ok ((((hexValue? (byte a)).getD 0 * 16 + (hexValue? (byte b)).getD 0) * 16 +
      (hexValue? (byte d)).getD 0) * 16 + (hexValue? (byte e)).getD 0), c.advance 4) := by
  have hlen : c.pos + 4 ≤ c.bytes.size := by
    have := congrArg List.length h
    simp only [length_ahead, List.length_append, List.length_cons, List.length_nil] at this
    omega
  have hds : (c.bytes.extract c.pos (c.pos + 4)).toList = [byte a, byte b, byte d, byte e] := by
    rw [toList_extract, Nat.add_sub_cancel_left]
    exact (congrArg (List.take 4) h).trans (by simp)
  simp only [List.all_cons, List.all_nil, Bool.and_true, Bool.and_eq_true] at hx
  obtain ⟨na, ha⟩ := Option.isSome_iff_exists.mp (hexValue?_byte hx.1)
  obtain ⟨nb, hb⟩ := Option.isSome_iff_exists.mp (hexValue?_byte hx.2.1)
  obtain ⟨nd, hd⟩ := Option.isSome_iff_exists.mp (hexValue?_byte hx.2.2.1)
  obtain ⟨ne, he⟩ := Option.isSome_iff_exists.mp (hexValue?_byte hx.2.2.2)
  rw [readHex4, run_bind_of_ok (run_get c)]
  simp only [if_pos hlen, hds, List.map_cons, List.map_nil, ha, hb, hd, he, Option.getD_some]
  rfl

theorem run_readHex4 {c : Cursor} {a b d e : Char} {more : List UInt8}
    (hx : [a, b, d, e].all isHexChar = true) (h : c.ahead = [byte a, byte b, byte d, byte e] ++ more) :
    ∃ n, readHex4.run.run c = (.ok n, c.advance 4) :=
  ⟨_, run_readHex4_value hx h⟩

theorem runsOut_readHex4 {c : Cursor} (h : c.ahead.length < 4) : RunsOut readHex4 c := by
  have hlen : ¬c.pos + 4 ≤ c.bytes.size := by rw [length_ahead] at h; omega
  rw [readHex4]
  refine RunsOut.of_ok (run_get c) ?_
  simp only [if_neg hlen]
  exact RunsOut.of_ok rfl (runsOut_fail rfl _)

/-- A byte that a string's loop passes over as it is: no quote, backslash or control byte. -/
def PlainByte (b : UInt8) : Prop := b ≠ byte '"' ∧ b ≠ byte '\\' ∧ ¬b < 0x20

theorem plainByte_of_toNat {b : UInt8} (hq : b.toNat ≠ 34) (hb : b.toNat ≠ 92) (hc : 0x20 ≤ b.toNat) :
    PlainByte b := by
  refine ⟨fun h => hq (by rw [h]; rfl), fun h => hb (by rw [h]; rfl), ?_⟩
  rw [UInt8.lt_iff_toNat_lt]
  simpa using hc

theorem plainByte_of_mem_utf8EncodeChar {c : Char} (hc : isPlainChar c = true) {b : UInt8}
    (hb : b ∈ String.utf8EncodeChar c) : PlainByte b := by
  simp only [isPlainChar, Bool.and_eq_true, decide_eq_true_eq, bne_iff_ne, ne_eq] at hc
  obtain ⟨⟨hlo, hq⟩, hbs⟩ := hc
  have hq' : c.val.toNat ≠ 34 := fun h => hq (by rw [← Char.ofNat_toNat c]; simp only [Char.toNat, h])
  have hbs' : c.val.toNat ≠ 92 := fun h => hbs (by rw [← Char.ofNat_toNat c]; simp only [Char.toNat, h])
  have hlo' : 0x20 ≤ c.val.toNat := hlo
  have hbyte : ∀ n, n < 256 → (UInt8.ofNat n).toNat = n := fun _ h => UInt8.toNat_ofNat_of_lt' h
  unfold String.utf8EncodeChar at hb
  generalize c.val.toNat = v at hq' hbs' hlo' hb
  dsimp only at hb
  split_ifs at hb
  · simp only [List.mem_singleton] at hb
    subst hb
    apply plainByte_of_toNat <;> rw [hbyte _ (by omega)] <;> omega
  · simp only [List.mem_cons, List.not_mem_nil, or_false] at hb
    rcases hb with rfl | rfl <;> apply plainByte_of_toNat <;> rw [hbyte _ (by omega)] <;> omega
  · simp only [List.mem_cons, List.not_mem_nil, or_false] at hb
    rcases hb with rfl | rfl | rfl <;> apply plainByte_of_toNat <;> rw [hbyte _ (by omega)] <;> omega
  · simp only [List.mem_cons, List.not_mem_nil, or_false] at hb
    rcases hb with rfl | rfl | rfl | rfl <;> apply plainByte_of_toNat <;> rw [hbyte _ (by omega)] <;> omega

theorem simpleEscape_byte (e : Escape) : (simpleEscape (byte e.char)).isSome := by
  cases e <;> rfl

theorem run_skipEscape_simple {c : Cursor} {more : List UInt8} (e : Escape)
    (h : c.ahead = byte e.char :: more) : skipEscape.run.run c = (.ok (), c.advance 1) := by
  rw [skipEscape, run_bind_of_ok (run_next_cons h)]
  simp only [simpleEscape_byte e, if_true]
  rfl

theorem run_skipEscape_unicode {c : Cursor} {a b d e : Char} {more : List UInt8}
    (hx : [a, b, d, e].all isHexChar = true)
    (h : c.ahead = byte 'u' :: ([byte a, byte b, byte d, byte e] ++ more)) :
    skipEscape.run.run c = (.ok (), c.advance 5) := by
  have hu : simpleEscape (byte 'u') = none := rfl
  obtain ⟨n, hn⟩ := run_readHex4 hx (Cursor.ahead_advance_one h)
  rw [skipEscape, run_bind_of_ok (run_next_cons h)]
  simp only [hu, Option.isSome_none, Bool.false_eq_true, if_false, beq_self_eq_true, if_true]
  rw [run_bind_of_ok hn]
  rfl

theorem runsOut_skipEscape_nil {c : Cursor} (h : c.ahead = []) : RunsOut skipEscape c := by
  rw [skipEscape]
  exact RunsOut.of_ok (run_next_nil h) (runsOut_fail rfl _)

theorem runsOut_skipEscape_unicode {c : Cursor} {hs : List UInt8} (h : c.ahead = byte 'u' :: hs)
    (hlen : hs.length < 4) : RunsOut skipEscape c := by
  have hu : simpleEscape (byte 'u') = none := rfl
  rw [skipEscape]
  refine RunsOut.of_ok (run_next_cons h) ?_
  simp only [hu, Option.isSome_none, Bool.false_eq_true, if_false, beq_self_eq_true, if_true]
  exact (runsOut_readHex4 (by rw [Cursor.ahead_advance_one h]; exact hlen)).bind _

/-- Plain bytes are passed over one loop step each. -/
theorem run_skipStringFor_plain : ∀ (bs : List UInt8) {c : Cursor} {more : List UInt8} (fuel : Nat),
    (∀ b ∈ bs, PlainByte b) → c.ahead = bs ++ more →
      (skipStringFor (fuel + bs.length)).run.run c = (skipStringFor fuel).run.run (c.advance bs.length)
  | [], _, _, _, _, _ => rfl
  | b :: bs, c, more, fuel, hp, h => by
    have hb : PlainByte b := hp b List.mem_cons_self
    rw [List.cons_append] at h
    rw [List.length_cons, ← Nat.add_assoc, skipStringFor, run_bind_of_ok (run_peek c)]
    simp only [h, List.head?_cons, beq_iff_eq, hb.1, hb.2.1, hb.2.2, if_false]
    rw [run_bind_of_ok (run_bump c), run_skipStringFor_plain bs fuel
      (fun x hx => hp x (List.mem_cons_of_mem _ hx)) (Cursor.ahead_advance_one h)]
    simp [Nat.add_comm]

theorem runsOut_skipStringFor_zero (c : Cursor) : RunsOut (skipStringFor 0) c :=
  runsOut_fail rfl c

theorem runsOut_skipStringFor_nil {c : Cursor} (h : c.ahead = []) :
    ∀ fuel, RunsOut (skipStringFor fuel) c
  | 0 => runsOut_skipStringFor_zero c
  | fuel + 1 => by
    rw [skipStringFor]
    refine RunsOut.of_ok (run_peek c) ?_
    simp only [h, List.head?_nil]
    exact runsOut_fail rfl c

/-- Plain bytes up to the end of the input: the loop runs out of input or of fuel. -/
theorem runsOut_skipStringFor_plain {bs : List UInt8} {c : Cursor} {more : List UInt8} {fuel : Nat}
    (hp : ∀ b ∈ bs, PlainByte b) (h : c.ahead = bs ++ more) (hend : more = [] ∨ fuel < bs.length) :
    RunsOut (skipStringFor fuel) c := by
  rcases Nat.lt_or_ge fuel bs.length with hf | hf
  · -- the fuel ends inside the plain bytes
    have htake : (bs.take fuel).length = fuel := List.length_take_of_le hf.le
    have h' : c.ahead = bs.take fuel ++ (bs.drop fuel ++ more) := by
      rw [← List.append_assoc, List.take_append_drop, h]
    have hrun := run_skipStringFor_plain (bs.take fuel) 0
      (fun x hx => hp x (List.mem_of_mem_take hx)) h'
    rw [Nat.zero_add, htake] at hrun
    obtain ⟨e, c', he, hc⟩ := runsOut_skipStringFor_zero (c.advance fuel)
    exact ⟨e, c', hrun.trans he, hc⟩
  · -- the input ends first
    have hmore : more = [] := hend.resolve_right (by omega)
    subst hmore
    have hrun := run_skipStringFor_plain bs (fuel - bs.length) hp h
    rw [Nat.sub_add_cancel hf] at hrun
    obtain ⟨e, c', he, hc⟩ := runsOut_skipStringFor_nil (Cursor.ahead_advance h) (fuel - bs.length)
    exact ⟨e, c', hrun.trans he, hc⟩

/-- The loop steps a piece of a string takes: one per byte of a plain character, one for an
escape. -/
def Syntax.Piece.steps : Piece → Nat
  | .plain c _ => (String.utf8EncodeChar c).length
  | .escape _ => 1
  | .unicode .. => 1

theorem Syntax.Piece.steps_le_length (p : Piece) : p.steps ≤ p.bytes.length := by
  cases p <;> simp [Piece.steps, Piece.bytes]

theorem byte_backslash_ne_quote : (byte '\\' == byte '"') = false := rfl

/-- A backslash starts an escape, which the loop checks before it goes on. -/
theorem run_skipStringFor_backslash {c : Cursor} {rest : List UInt8} (h : c.ahead = byte '\\' :: rest)
    (fuel : Nat) : (skipStringFor (fuel + 1)).run.run c =
      (skipEscape >>= fun _ => skipStringFor fuel).run.run (c.advance 1) := by
  rw [skipStringFor, run_bind_of_ok (run_peek c)]
  simp only [h, List.head?_cons, byte_backslash_ne_quote, beq_self_eq_true, Bool.false_eq_true,
    if_false, if_true]
  exact run_bind_of_ok (run_bump c) _

/-- **One piece of a string is passed over** in the loop steps it takes. -/
theorem run_skipStringFor_piece (p : Piece) {c : Cursor} {more : List UInt8}
    (h : c.ahead = p.bytes ++ more) (fuel : Nat) :
    (skipStringFor (fuel + p.steps)).run.run c = (skipStringFor fuel).run.run (c.advance p.bytes.length) := by
  cases p with
  | plain x hx =>
    exact run_skipStringFor_plain _ fuel (fun b hb => plainByte_of_mem_utf8EncodeChar hx hb) h
  | escape e =>
    simp only [Piece.bytes, Piece.steps, List.cons_append, List.nil_append] at h ⊢
    rw [run_skipStringFor_backslash h,
      run_bind_of_ok (run_skipEscape_simple e (Cursor.ahead_advance_one h))]
    simp
  | unicode a b d e hx =>
    simp only [Piece.bytes, Piece.steps, List.cons_append, List.nil_append] at h ⊢
    rw [run_skipStringFor_backslash h,
      run_bind_of_ok (run_skipEscape_unicode hx (Cursor.ahead_advance_one h))]
    simp

/-- **A string is passed over up to its closing quote**, given a step per byte. -/
theorem run_skipStringFor : ∀ (s : List Piece) {c : Cursor} {more : List UInt8} {fuel : Nat},
    c.ahead = s.flatMap Piece.bytes ++ byte '"' :: more → (s.flatMap Piece.bytes).length < fuel →
      (skipStringFor fuel).run.run c = (.ok (), c.advance ((s.flatMap Piece.bytes).length + 1))
  | [], c, more, fuel, h, hf => by
    obtain ⟨fuel, rfl⟩ : ∃ f, fuel = f + 1 := ⟨fuel - 1, by simp at hf; omega⟩
    rw [skipStringFor, run_bind_of_ok (run_peek c)]
    simp only [List.flatMap_nil, List.nil_append] at h
    simp only [h, List.head?_cons, beq_self_eq_true, if_true]
    rfl
  | p :: s, c, more, fuel, h, hf => by
    rw [List.flatMap_cons, List.append_assoc] at h
    rw [List.flatMap_cons, List.length_append] at hf ⊢
    have hsteps := p.steps_le_length
    rw [← Nat.sub_add_cancel (show p.steps ≤ fuel by omega), run_skipStringFor_piece p h,
      run_skipStringFor s (Cursor.ahead_advance h) (by omega)]
    simp [Nat.add_assoc]

/-- Too few loop steps for a piece: the fuel runs out inside it. -/
theorem runsOut_skipStringFor_steps (p : Piece) {c : Cursor} {more : List UInt8} {fuel : Nat}
    (h : c.ahead = p.bytes ++ more) (hf : fuel < p.steps) : RunsOut (skipStringFor fuel) c := by
  cases p with
  | plain x hx =>
    exact runsOut_skipStringFor_plain (fun b hb => plainByte_of_mem_utf8EncodeChar hx hb) h (.inr hf)
  | escape e =>
    obtain rfl : fuel = 0 := by simp only [Piece.steps] at hf; omega
    exact runsOut_skipStringFor_zero c
  | unicode a b d e hx =>
    obtain rfl : fuel = 0 := by simp only [Piece.steps] at hf; omega
    exact runsOut_skipStringFor_zero c

theorem runsOut_skipStringFor_escape {c : Cursor} {rest : List UInt8} (h : c.ahead = byte '\\' :: rest)
    (he : RunsOut skipEscape (c.advance 1)) : ∀ fuel, RunsOut (skipStringFor fuel) c
  | 0 => runsOut_skipStringFor_zero c
  | fuel + 1 => by
    obtain ⟨e, c', hrun, hc⟩ := he.bind fun _ => skipStringFor fuel
    exact ⟨e, c', (run_skipStringFor_backslash h fuel).trans hrun, hc⟩

/-- Input that ends inside a piece of a string runs out. -/
theorem runsOut_skipStringFor_inside (p : Piece) {c : Cursor} {pre post : List UInt8}
    (hpre : pre ++ post = p.bytes) (hpost : post ≠ []) (h : c.ahead = pre) :
    ∀ fuel, RunsOut (skipStringFor fuel) c := by
  intro fuel
  cases p with
  | plain x hx =>
    refine runsOut_skipStringFor_plain (fun b hb => ?_) (show c.ahead = pre ++ [] by rw [h, List.append_nil])
      (.inl rfl)
    have hb' : b ∈ (Piece.plain x hx).bytes := hpre ▸ List.mem_append_left post hb
    exact plainByte_of_mem_utf8EncodeChar hx hb'
  | escape e =>
    rcases pre with _ | ⟨x, _ | ⟨y, pre⟩⟩
    · exact runsOut_skipStringFor_nil h fuel
    · obtain ⟨rfl, -⟩ := List.cons_eq_cons.mp hpre
      exact runsOut_skipStringFor_escape h (runsOut_skipEscape_nil (Cursor.ahead_advance_one h)) fuel
    · simp only [Piece.bytes, List.cons_append, List.cons.injEq, List.append_eq_nil_iff] at hpre
      exact absurd hpre.2.2.2 hpost
  | unicode a b d e hx =>
    rcases pre with _ | ⟨x, _ | ⟨y, hs⟩⟩
    · exact runsOut_skipStringFor_nil h fuel
    · obtain ⟨rfl, -⟩ := List.cons_eq_cons.mp hpre
      exact runsOut_skipStringFor_escape h (runsOut_skipEscape_nil (Cursor.ahead_advance_one h)) fuel
    · simp only [Piece.bytes, List.cons_append, List.cons.injEq] at hpre
      obtain ⟨rfl, rfl, hhex⟩ := hpre
      have hlen : hs.length < 4 := by
        have := congrArg List.length hhex
        simp only [List.length_append, List.length_cons, List.length_nil] at this
        have : post.length ≠ 0 := by simpa using hpost
        omega
      exact runsOut_skipStringFor_escape h
        (runsOut_skipEscape_unicode (Cursor.ahead_advance_one h) hlen) fuel

/-- **A string cut short runs out**, whatever the fuel: the cut may fall anywhere before the
closing quote has been read, inside an escape or a character's UTF-8 bytes too. -/
theorem runsOut_skipStringFor : ∀ (s : List Piece) {c : Cursor} {pre post : List UInt8} (fuel : Nat),
    pre ++ post = s.flatMap Piece.bytes ++ [byte '"'] → post ≠ [] → c.ahead = pre →
      RunsOut (skipStringFor fuel) c
  | [], c, pre, post, fuel, hpre, hpost, h => by
    have hnil : pre = [] := by
      have := congrArg List.length hpre
      simp only [List.length_append, List.flatMap_nil, List.nil_append, List.length_cons,
        List.length_nil] at this
      have : post.length ≠ 0 := by simpa using hpost
      exact List.eq_nil_of_length_eq_zero (by omega)
    exact runsOut_skipStringFor_nil (h.trans hnil) fuel
  | p :: s, c, pre, post, fuel, hpre, hpost, h => by
    rw [List.flatMap_cons, List.append_assoc] at hpre
    -- the cut falls inside the first piece, or after it
    have after : ∀ mid, pre = p.bytes ++ mid → mid ++ post = s.flatMap Piece.bytes ++ [byte '"'] →
        RunsOut (skipStringFor fuel) c := by
      intro mid hp hq
      rw [hp] at h
      rcases Nat.lt_or_ge fuel p.steps with hf | hf
      · exact runsOut_skipStringFor_steps p h hf
      · obtain ⟨e, c', hrun, hc⟩ := runsOut_skipStringFor s (fuel - p.steps) hq hpost (Cursor.ahead_advance h)
        refine ⟨e, c', ?_, hc⟩
        rw [← Nat.sub_add_cancel hf, run_skipStringFor_piece p h, hrun]
    rcases List.append_eq_append_iff.mp hpre with ⟨mid, hp, hq⟩ | ⟨mid, hp, hq⟩
    · rcases mid with _ | ⟨b, mid⟩
      · rw [List.append_nil] at hp
        exact after [] (by rw [hp, List.append_nil]) (by simp [hq])
      · exact runsOut_skipStringFor_inside p hp.symm (List.cons_ne_nil b mid) h fuel
    · exact after mid hp hq.symm

theorem run_budget (c : Cursor) : (budget : Read Nat).run.run c = (.ok c.budget, c) := rfl

theorem budget_gt {c : Cursor} {l₁ l₂ : List UInt8} (h : c.ahead = l₁ ++ l₂) : l₁.length < c.budget := by
  have := congrArg List.length h
  simp only [length_ahead, List.length_append] at this
  unfold Cursor.budget
  omega

theorem run_skipString (s : List Piece) {c : Cursor} {more : List UInt8}
    (h : c.ahead = s.flatMap Piece.bytes ++ byte '"' :: more) :
    skipString.run.run c = (.ok (), c.advance ((s.flatMap Piece.bytes).length + 1)) := by
  rw [skipString, run_bind_of_ok (run_budget c)]
  exact run_skipStringFor s h (budget_gt h)

theorem runsOut_skipString (s : List Piece) {c : Cursor} {pre post : List UInt8}
    (hpre : pre ++ post = s.flatMap Piece.bytes ++ [byte '"']) (hpost : post ≠ []) (h : c.ahead = pre) :
    RunsOut skipString c := by
  rw [skipString]
  exact RunsOut.of_ok (run_budget c) (runsOut_skipStringFor s _ hpre hpost h)

/-! ## Cursors past blanks -/

theorem Cursor.ahead_advance_blank {c : Cursor} {w : List Space} {l : List UInt8}
    (h : c.ahead = blankBytes w ++ l) : (c.advance w.length).ahead = l :=
  Cursor.ahead_advance_of_length h (List.length_map ..)

theorem Cursor.ahead_advance_past {c : Cursor} {l₁ l₂ : List UInt8} {x : UInt8}
    (h : c.ahead = l₁ ++ x :: l₂) : (c.advance (l₁.length + 1)).ahead = l₂ := by
  have h' : c.ahead = (l₁ ++ [x]) ++ l₂ := by rw [h]; simp
  exact Cursor.ahead_advance_of_length h' (by simp)

theorem Cursor.ahead_advance_blank_past {c : Cursor} {w : List Space} {l : List UInt8} {x : UInt8}
    (h : c.ahead = blankBytes w ++ x :: l) : (c.advance (w.length + 1)).ahead = l := by
  simpa [blankBytes] using Cursor.ahead_advance_past h

end PoolMonitor.Json
