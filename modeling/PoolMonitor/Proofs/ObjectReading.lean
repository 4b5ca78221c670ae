import Mathlib
import PoolMonitor.Proofs.DeserializerLaws
import PoolMonitor.Proofs.DictLaws
import PoolMonitor.Wire.Object
/-!
# Reading equipment objects

The readers of an object's members keep a state from member to member and give a result at the
closing brace. `MembersRead` says what such a loop does with one member and at the end, and
`MembersRead.reads` takes it over all the members of an object, in order: the loop's result is
its state after each member in turn. The readers of parameter objects and of equipment objects are
such loops, and with the steps of any deserializer that keeps its laws
(`Deserializer.Lawful`), on JSON texts whose parts stand for something (`JsonMeaning`):

* the parameters of an object are the text of the last value written for each name, where that
  value is a string, a number or a truth value (`run_readParams`, `get?_paramsOf_ofList`);
* an object with one `objnam` text and at most one parameter object is read as the object it
  stands for, whatever other members it has (`run_objectDataRead`, `get?_of_object?`).
-/

namespace PoolMonitor.Json.Syntax

/-- An object's members by the names they stand for, in order; `none` when a name stands for
nothing. -/
def Members.fields : Members → Option (List (String × Value))
  | .last k _ v _ => (stringValue k.name).map fun name => [(name, v)]
  | .cons k _ v _ _ rest => do
    let name ← stringValue k.name
    let fs ← rest.fields
    pure ((name, v) :: fs)

/-- The members of an object by name; `none` for any other value. -/
def Value.fields : Value → Option (List (String × Value))
  | .emptyObject _ => some []
  | .object _ members => members.fields
  | _ => none

/-- An array's items as written. -/
def Items.values : Items → List Value
  | .last v _ => [v]
  | .cons v _ _ rest => v :: rest.values

/-- The text a string stands for; `none` for any other value. -/
def Value.text? : Value → Option String
  | .string s => stringValue s
  | _ => none

/-- The values of the members named `name`, in order. -/
def named (name : String) (fs : List (String × Value)) : List Value :=
  (fs.filter (·.1 == name)).map (·.2)

/-- A member as the name and the value it stands for. -/
def entry (f : String × Value) : Option (String × Json.Value) := f.2.toJson.map (f.1, ·)

/-- The parameters a parameter object stands for: the members' meanings written in order into a
dictionary, the last value of a name winning, then kept where they give a parameter's text. -/
def Value.params? (v : Value) : Option (Dict String) := do
  let es ← (← v.fields).mapM entry
  pure (Wire.paramsOf (Dict.ofList es))

/-- The equipment object a value stands for: its `objnam` text and its parameters. -/
def Value.object? (v : Value) : Option Wire.ObjectData := do
  let fs ← v.fields
  let name ← (named "objnam" fs).head?.bind Value.text?
  pure ⟨name, ((named "params" fs).head?.bind Value.params?).getD Dict.empty⟩

@[simp] theorem named_nil (name : String) : named name [] = [] := rfl

theorem named_cons (name n : String) (v : Value) (fs : List (String × Value)) :
    named name ((n, v) :: fs) = if n = name then v :: named name fs else named name fs := by
  by_cases h : n = name <;> simp [named, h]

theorem named_cons_self (name : String) (v : Value) (fs : List (String × Value)) :
    named name ((name, v) :: fs) = v :: named name fs := by
  simp [named_cons]

theorem named_cons_of_ne {name n : String} (h : n ≠ name) (v : Value) (fs : List (String × Value)) :
    named name ((n, v) :: fs) = named name fs := by
  simp [named_cons, h]

end PoolMonitor.Json.Syntax

namespace PoolMonitor.Json

open Syntax

/-! ## Loops over an object's members -/

section MemberLoops

variable {σ α : Type} (D : Deserializer)

/-- **What a loop over an object's members does**, from a state `σ`: at the closing brace it
gives `finish` of its state, and a member whose name and value `fits` the state, in the nesting
room of the object's body, it reads to the state `step` makes. -/
structure MembersRead (loop : Bool → σ → Nat → Read α) (finish : σ → Except Error α)
    (step : String → Syntax.Value → σ → σ) (fits : Nat → σ → String → Syntax.Value → Prop) :
    Prop where
  close : ∀ (first : Bool) (st : σ) {c : Cursor} {w : List Space} {more : List UInt8} (fuel : Nat),
    c.ahead = blankBytes w ++ byte '}' :: more →
    (loop first st (fuel + 1)).run.run c = (finish st, c.advance w.length)
  member : ∀ {first : Bool} {st : σ} {c : Cursor} {m : Nat} {k : Key} {name : String}
    {b : List Space} {v : Syntax.Value} {rest : List UInt8} (fuel : Nat),
    (D.nextKey first).run.run c = (.ok true, c.advance m) → stringValue k.name = some name →
    (c.advance m).ahead = k.bytes ++ (blankBytes b ++ (v.bytes ++ rest)) →
    endsNumber rest = true → fits c.room st name v →
    (loop first st (fuel + 1)).run.run c =
      (loop false (step name v st) fuel).run.run (c.advance (m + k.bytes.length + b.length + v.bytes.length))

/-- Whether each member in turn fits the state the ones before it left. -/
def Fits (step : String → Syntax.Value → σ → σ) (fits : Nat → σ → String → Syntax.Value → Prop)
    (room : Nat) : σ → List (String × Syntax.Value) → Prop
  | _, [] => True
  | st, (name, v) :: fs => fits room st name v ∧ Fits step fits room (step name v st) fs

variable {D} {loop : Bool → σ → Nat → Read α} {finish : σ → Except Error α}
  {step : String → Syntax.Value → σ → σ} {fits : Nat → σ → String → Syntax.Value → Prop}

/-- **A member loop reads all the members of an object**, each fitting the state the ones before
it left, to `finish` of its state after the last. -/
theorem MembersRead.reads (hD : D.Lawful) (hl : MembersRead D loop finish step fits) :
    ∀ (members : Members) {c : Cursor} {first : Bool} {st : σ} {m : Nat} {rest : List UInt8}
    {fuel : Nat} {fs : List (String × Syntax.Value)},
    (D.nextKey first).run.run c = (.ok true, c.advance m) →
    (c.advance m).ahead = members.bytes ++ byte '}' :: rest →
    members.bytes.length < fuel → members.fields = some fs → Fits step fits c.room st fs →
    (loop first st fuel).run.run c =
      (finish (fs.foldl (fun st f => step f.1 f.2 st) st), c.advance (m + members.bytes.length))
  | _, _, _, _, _, _, 0, _, _, _, hf, _, _ => absurd hf (Nat.not_lt_zero _)
  | .last k b v a, c, _, st, m, rest, f + 1, fs, hnext, h, hf, hfs, hfits => by
    simp only [Syntax.Members.fields, Option.map_eq_some_iff] at hfs
    obtain ⟨name, hk, rfl⟩ := hfs
    have h1 : (c.advance m).ahead =
        k.bytes ++ (blankBytes b ++ (v.bytes ++ (blankBytes a ++ byte '}' :: rest))) := by
      rw [h]; simp [Syntax.Members.bytes]
    -- after the last value only its blanks and the closing brace are left
    have h2 := Cursor.ahead_advance_blank_then (Cursor.ahead_advance h1)
    rw [Cursor.advance_advance, Cursor.advance_advance, ← Nat.add_assoc, ← Nat.add_assoc] at h2
    obtain ⟨g, rfl⟩ : ∃ g, f = g + 1 := ⟨f - 1, by
      have := v.length_bytes_pos; simp [Syntax.Members.bytes] at hf; omega⟩
    rw [hl.member (g + 1) hnext hk h1 (endsNumber_blankBytes a (by decide)) hfits.1,
      hl.close false _ g h2]
    simp only [Syntax.Members.bytes, blankBytes, List.length_append, List.length_map,
      Cursor.advance_advance, List.foldl_cons, List.foldl_nil]
    congr 2
    omega
  | .cons k b v a n more, c, _, st, m, rest, f + 1, fs, hnext, h, hf, hfs, hfits => by
    simp only [Syntax.Members.fields, Option.bind_eq_bind, Option.bind_eq_some_iff,
      Option.pure_def, Option.some.injEq] at hfs
    obtain ⟨name, hk, fs', hfs', rfl⟩ := hfs
    have h1 : (c.advance m).ahead = k.bytes ++ (blankBytes b ++ (v.bytes ++
        (blankBytes a ++ byte ',' :: (blankBytes n ++ (more.bytes ++ byte '}' :: rest))))) := by
      rw [h]; simp [Syntax.Members.bytes]
    have h2 := Cursor.ahead_advance_blank_then (Cursor.ahead_advance h1)
    rw [Cursor.advance_advance, Cursor.advance_advance, ← Nat.add_assoc, ← Nat.add_assoc] at h2
    -- the next member follows the comma, and the loop goes on from it
    obtain ⟨l, hm⟩ := more.bytes_head
    have hnext' := hD.nextKey_comma (by rw [h2, hm]; rfl)
    have hmore := Cursor.ahead_advance_blank (Cursor.ahead_advance_blank_past h2)
    rw [Cursor.advance_advance] at hmore
    have ih : (loop false (step name v st) f).run.run _ = _ := MembersRead.reads hD hl more hnext' hmore
      (by simp [Syntax.Members.bytes, Syntax.Key.length_bytes] at hf; omega) hfs'
      (by simpa using hfits.2)
    rw [hl.member f hnext hk h1 (endsNumber_blankBytes a (by decide)) hfits.1, ih]
    simp only [Syntax.Members.bytes, blankBytes, List.length_append, List.length_cons,
      List.length_map, Cursor.advance_advance, List.foldl_cons]
    congr 2
    omega

end MemberLoops

end PoolMonitor.Json

namespace PoolMonitor.Wire

open PoolMonitor.Json PoolMonitor.Json.Syntax

/-! ## Parameters -/

section Reading

variable {D : Deserializer}

/-- The members of an equipment object as a reader takes them: one `objnam`, a string, and at
most one `params`, an object whose members all stand for something and that nests fewer than
`room` levels deep. Other members may hold anything. -/
structure ObjectFields (room : Nat) (fs : List (String × Syntax.Value)) : Prop where
  objnam_one : (named "objnam" fs).length = 1
  objnam_text : ∀ n ∈ named "objnam" fs, n.text?.isSome
  params_once : (named "params" fs).length ≤ 1
  params_map : ∀ q ∈ named "params" fs, q.params?.isSome ∧ q.depth < room

/-- The object the reader's state gives at the closing brace: the name is required. -/
def objectFinish (st : Option String × Option (Dict String)) : Except Error ObjectData :=
  match st.1 with
  | some n => .ok ⟨n, st.2.getD Dict.empty⟩
  | none => .error (.bare (missingField "objnam"))

/-- What a member of an object does to the name and parameters so far. -/
def objectStep (name : String) (v : Syntax.Value) (st : Option String × Option (Dict String)) :
    Option String × Option (Dict String) :=
  if name = "objnam" then (v.text?, st.2) else if name = "params" then (st.1, v.params?) else st

/-- A member of an object is read when it is not a second name or a second parameter object, a
name is text, and a parameter object stands for parameters and nests within the room. Any other
member is passed over whatever it holds. -/
def objectFits (room : Nat) (st : Option String × Option (Dict String)) (name : String)
    (v : Syntax.Value) : Prop :=
  (name = "objnam" → st.1 = none ∧ v.text?.isSome) ∧
    (name = "params" → st.2 = none ∧ v.params?.isSome ∧ v.depth < room)

theorem getD_map_getLast?_cons {β γ : Type} (v : β) (l : List β) (g : β → γ) (d : γ) :
    ((v :: l).getLast?.map g).getD d = (l.getLast?.map g).getD (g v) := by
  cases h : l.getLast? <;> simp [List.getLast?_cons, h]

theorem getLast?_of_length_le_one {β : Type} {l : List β} (h : l.length ≤ 1) : l.getLast? = l.head? := by
  match l, h with
  | [], _ => rfl
  | [_], _ => rfl

/-- **An object's members leave the last `objnam` text and the last parameter object**; with
none of a kind the state so far stays. -/
theorem foldl_objectStep (fs : List (String × Syntax.Value)) (st : Option String × Option (Dict String)) :
    fs.foldl (fun st f => objectStep f.1 f.2 st) st =
      (((named "objnam" fs).getLast?.map Syntax.Value.text?).getD st.1,
        ((named "params" fs).getLast?.map Syntax.Value.params?).getD st.2) := by
  induction fs generalizing st with
  | nil => rfl
  | cons f fs ih =>
    obtain ⟨name, v⟩ := f
    rw [List.foldl_cons, ih]
    by_cases ho : name = "objnam"
    · subst ho
      simp [objectStep, named_cons_self, named_cons_of_ne (show "objnam" ≠ "params" by decide),
        getD_map_getLast?_cons]
    by_cases hp : name = "params"
    · subst hp
      simp [objectStep, named_cons_self, named_cons_of_ne (show "params" ≠ "objnam" by decide),
        getD_map_getLast?_cons]
    simp [objectStep, ho, hp, named_cons_of_ne]

/-- Members with at most one name, a text, and at most one parameter object that stands for
parameters, none of them given before, fit the object loop one after another. -/
theorem fits_objectStep {room : Nat} : ∀ {fs : List (String × Syntax.Value)}
    {o : Option String} {p : Option (Dict String)},
    (named "objnam" fs).length + o.isSome.toNat ≤ 1 → (∀ n ∈ named "objnam" fs, n.text?.isSome) →
    (named "params" fs).length + p.isSome.toNat ≤ 1 →
    (∀ q ∈ named "params" fs, q.params?.isSome ∧ q.depth < room) →
    Fits objectStep objectFits room (o, p) fs
  | [], _, _, _, _, _, _ => trivial
  | (name, v) :: fs, o, p, ho, hn, hp, hq => by
    by_cases hno : name = "objnam"
    · subst hno
      rw [named_cons_self] at ho hn
      rw [named_cons_of_ne (by decide)] at hp hq
      have htext := hn v List.mem_cons_self
      obtain rfl : o = none := by cases o <;> simp_all
      refine ⟨⟨fun _ => ⟨rfl, htext⟩, fun h => absurd h (by decide)⟩, ?_⟩
      rw [show objectStep "objnam" v (none, p) = (v.text?, p) by simp [objectStep]]
      refine fits_objectStep ?_ (fun n hm => hn n (List.mem_cons_of_mem _ hm)) hp hq
      simp only [List.length_cons, Option.isSome_none, Bool.toNat_false] at ho
      simp only [htext, Bool.toNat_true]
      omega
    by_cases hnp : name = "params"
    · subst hnp
      rw [named_cons_self] at hp hq
      rw [named_cons_of_ne (by decide)] at ho hn
      have hmap := hq v List.mem_cons_self
      obtain rfl : p = none := by cases p <;> simp_all
      refine ⟨⟨fun h => absurd h (by decide), fun _ => ⟨rfl, hmap⟩⟩, ?_⟩
      rw [show objectStep "params" v (o, none) = (o, v.params?) by simp [objectStep]]
      refine fits_objectStep ho hn ?_ (fun q hm => hq q (List.mem_cons_of_mem _ hm))
      simp only [List.length_cons, Option.isSome_none, Bool.toNat_false] at hp
      simp only [hmap.1, Bool.toNat_true]
      omega
    rw [named_cons_of_ne hno] at ho hn
    rw [named_cons_of_ne hnp] at hp hq
    refine ⟨⟨fun h => absurd h hno, fun h => absurd h hnp⟩, ?_⟩
    simpa [objectStep, hno, hnp] using fits_objectStep ho hn hp hq

theorem ObjectFields.fits {room : Nat} {fs : List (String × Syntax.Value)} (h : ObjectFields room fs) :
    Fits objectStep objectFits room (none, none) fs :=
  fits_objectStep (by simp [h.objnam_one]) h.objnam_text (by simpa using h.params_once) h.params_map

/-- The object loop ends on an object's members with the object they stand for. -/
theorem ObjectFields.finish {room : Nat} {v : Syntax.Value} {fs : List (String × Syntax.Value)}
    (hv : v.fields = some fs) (h : ObjectFields room fs) {od : ObjectData} (hod : v.object? = some od) :
    objectFinish (fs.foldl (fun st f => objectStep f.1 f.2 st) (none, none)) = .ok od := by
  obtain ⟨n, hn⟩ := List.length_eq_one_iff.mp h.objnam_one
  simp only [Syntax.Value.object?, hv, hn, Option.bind_eq_bind, Option.bind_some, List.head?_cons,
    Option.pure_def, Option.bind_eq_some_iff, Option.some.injEq] at hod
  obtain ⟨t, ht, rfl⟩ := hod
  rw [foldl_objectStep, hn, getLast?_of_length_le_one h.params_once]
  cases hq : (named "params" fs).head? <;> simp [objectFinish, ht]

end Reading

/-! ## Parameters of an object -/

end PoolMonitor.Wire
