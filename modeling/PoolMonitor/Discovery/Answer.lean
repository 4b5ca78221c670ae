import PoolMonitor.Discovery.Address
import PoolMonitor.Discovery.Query
/-!
# Reading multicast DNS answers

`parseResponse` looks through an answer packet for the IPv4 address of a host. A packet that
is not a response has none. The questions are passed over, then the records of all three
sections are read in order; the first record of type A and class IN (the cache-flush bit
aside) whose four-byte data belongs to the host, its name compared without regard to ASCII
case, gives the address.

Names are read label by label; a compression pointer jumps elsewhere in the packet, and the
name then ends two bytes after the first pointer. Reading stops with an error:

* `truncated n` when the packet ends where byte `n` or more was needed;
* `badLabel n` at a length byte whose top bits are `01` or `10`, or when the name would grow
  beyond 255 bytes (labels are read as UTF-8, a replacement character for bytes that are not);
* `pointerLoop` after more than 16 jumps.

The name loop is written as its body, `nameStep`, on a cursor holding the loop's variables,
and `readNameFrom` runs it. Each round that goes on either moves forward in the packet or
spends one of the jumps, so `NameCursor.budget` falls and the loop ends. Every byte is read
through a bounds check.
-/

namespace PoolMonitor.Discovery

/-- Why an answer packet could not be read. -/
inductive DnsError where
  | truncated (offset : Nat)
  | badLabel (offset : Nat)
  | pointerLoop
  deriving Repr, BEq, DecidableEq

/-- The message of an error. -/
def DnsError.message : DnsError → String
  | .truncated n => "Packet truncated at offset " ++ toString n
  | .badLabel n => "Bad label at offset " ++ toString n
  | .pointerLoop => "Compression pointer loop"

/-- The most pointer jumps in one name. -/
def maxJumps : Nat := 16

/-- The longest name in bytes. -/
def maxNameLength : Nat := 255

/-- The response bit of the flags. -/
def responseFlag : Nat := 0x8000

/-- The 16-bit number at `i`, or a truncation at `i`. -/
def u16At (p : ByteArray) (i : Nat) : Except DnsError Nat :=
  if _ : i + 2 ≤ p.size then .ok (p[i].toNat * 256 + p[i + 1].toNat) else .error (.truncated i)

/-- The address held by the four bytes at `i`. -/
def addressAt (p : ByteArray) (i : Nat) (_ : i + 4 ≤ p.size) : Ipv4 :=
  ⟨p[i], p[i + 1], p[i + 2], p[i + 3]⟩

/-- The name so far with one more label. -/
def appendLabel (name : String) (label : String) : String :=
  if name.isEmpty then label else name ++ "." ++ label

/-- The text of the `len` bytes from `start`, read as UTF-8. -/
def labelText (p : ByteArray) (start len : Nat) : String :=
  Text.Utf8.decodeLossy ((p.data.extract start (start + len)).toList.map (·.toNat))

/-- The variables of the name loop: the labels read so far, where the name ends if a pointer was
taken, the jumps made, and where the next length byte is. -/
structure NameCursor where
  name : String := ""
  stop : Option Nat := none
  jumps : Nat := 0
  pos : Nat
  deriving Repr

/-- What a round of the name loop comes to: another round from a new cursor, or the end. -/
inductive NameStep where
  | next (c : NameCursor)
  | done (r : Except DnsError (String × Nat))

/-- One round of the name loop: the length byte at the cursor ends the name, adds a label, or
jumps. -/
def nameStep (p : ByteArray) (c : NameCursor) : NameStep :=
  match p[c.pos]? with
  | none => .done (.error (.truncated c.pos))
  | some lenByte =>
    let len := lenByte.toNat
    if len = 0 then .done (.ok (c.name, c.stop.getD (c.pos + 1)))
    else if len < 0x40 then
      if c.pos + 1 + len ≤ p.size then
        let name := appendLabel c.name (labelText p (c.pos + 1) len)
        if name.utf8ByteSize > maxNameLength then .done (.error (.badLabel c.pos))
        else .next { c with name, pos := c.pos + 1 + len }
      else .done (.error (.truncated (c.pos + 1)))
    else if len ≥ 0xC0 then
      match p[c.pos + 1]? with
      | none => .done (.error (.truncated (c.pos + 1)))
      | some low =>
        if c.jumps + 1 > maxJumps then .done (.error .pointerLoop)
        else .next { c with
          stop := some (c.stop.getD (c.pos + 2))
          jumps := c.jumps + 1
          pos := (len % 0x40) * 256 + low.toNat }
    else .done (.error (.badLabel c.pos))

/-- A bound on the rounds left from `c`: a pass over the packet for each jump still allowed,
and the bytes ahead of the cursor. -/
def NameCursor.budget (p : ByteArray) (c : NameCursor) : Nat :=
  (maxJumps - c.jumps) * (p.size + 1) + (p.size + 1 - min c.pos p.size)

/-- A round that goes on either reads a label, moving forward within the packet, or takes one of
the jumps still allowed. -/
theorem nameStep_next_cases {p : ByteArray} {c c' : NameCursor} (h : nameStep p c = .next c') :
    (c'.jumps = c.jumps ∧ c.pos < c'.pos ∧ c'.pos ≤ p.size) ∨
      (c.jumps < maxJumps ∧ c'.jumps = c.jumps + 1) := by
  unfold nameStep at h
  split at h
  · cases h
  · dsimp only at h
    split at h
    · cases h
    split at h
    · split at h
      · split at h
        · cases h
        · cases h
          dsimp only
          exact .inl ⟨rfl, by omega, by omega⟩
      · cases h
    · split at h
      · split at h
        · cases h
        · split at h
          · cases h
          · cases h
            dsimp only
            exact .inr ⟨by omega, rfl⟩
      · cases h

/-- Every round that goes on spends some of the budget. -/
theorem nameStep_budget_lt {p : ByteArray} {c c' : NameCursor} (h : nameStep p c = .next c') :
    c'.budget p < c.budget p := by
  unfold NameCursor.budget
  rcases nameStep_next_cases h with ⟨hj, hlt, hle⟩ | ⟨hlt, hj⟩
  · rw [hj]
    have : min c'.pos p.size = c'.pos := Nat.min_eq_left hle
    omega
  · obtain ⟨k, hk⟩ : ∃ k, maxJumps - c.jumps = k + 1 := ⟨maxJumps - c.jumps - 1, by omega⟩
    have hk' : maxJumps - c'.jumps = k := by omega
    rw [hk, hk', Nat.succ_mul]
    omega

set_option linter.unusedVariables false in
/-- Run the name loop from `c` to its end: the name and the offset after it. -/
def readNameFrom (p : ByteArray) (c : NameCursor) : Except DnsError (String × Nat) :=
  match h : nameStep p c with
  | .done r => r
  | .next c' => readNameFrom p c'
termination_by c.budget p
decreasing_by exact nameStep_budget_lt h

/-- Read the name at `offset`: the name and the offset after it. -/
def readName (p : ByteArray) (offset : Nat) : Except DnsError (String × Nat) :=
  readNameFrom p { pos := offset }

/-- ASCII letters compared without case; other bytes exactly. -/
def asciiFold (c : Char) : Char := if 'A' ≤ c ∧ c ≤ 'Z' then Char.ofNat (c.toNat + 32) else c

/-- Whether two names are equal but for ASCII case. -/
def sameName (a b : String) : Bool := a.toList.map asciiFold == b.toList.map asciiFold

/-- Pass over `n` questions from `pos`: each is a name, a type and a class. -/
def skipQuestions (p : ByteArray) : Nat → Nat → Except DnsError Nat
  | 0, pos => .ok pos
  | n + 1, pos => do
    let question ← readName p pos
    let next := question.2 + 4
    if next > p.size then throw (.truncated next)
    skipQuestions p n next

/-- The head of a resource record that lies in packet `p`: its owner name, type and class, and
where its data starts and how long it is. -/
structure Record (p : ByteArray) where
  name : String
  rtype : Nat
  rclass : Nat
  rdata : Nat
  rdlen : Nat
  fits : rdata + rdlen ≤ p.size

/-- Where the record after `r` starts. -/
def Record.next {p : ByteArray} (r : Record p) : Nat := r.rdata + r.rdlen

/-- Whether a record gives the address of `target`: type A, class IN with or without the
cache-flush bit, four bytes of data, and `target` as its name but for ASCII case. -/
def Record.IsAddressOf {p : ByteArray} (r : Record p) (target : String) : Prop :=
  r.rtype = typeA ∧ r.rclass % 0x8000 = classIn ∧ r.rdlen = 4 ∧ sameName r.name target = true

instance {p : ByteArray} (r : Record p) (target : String) : Decidable (r.IsAddressOf target) :=
  inferInstanceAs (Decidable (_ ∧ _))

/-- The address a record of four bytes of data holds. -/
def Record.address {p : ByteArray} (r : Record p) (h : r.rdlen = 4) : Ipv4 :=
  addressAt p r.rdata (h ▸ r.fits)

/-- Read the record at `pos`: its name, then type, class and data length at fixed offsets after
it, the data having to lie in the packet. -/
def readRecord (p : ByteArray) (pos : Nat) : Except DnsError (Record p) := do
  let owner ← readName p pos
  let next := owner.2
  let rtype ← u16At p next
  let rclass ← u16At p (next + 2)
  let rdlen ← u16At p (next + 8)
  if fits : next + 10 + rdlen ≤ p.size then return ⟨owner.1, rtype, rclass, next + 10, rdlen, fits⟩
  else throw (.truncated (next + 10 + rdlen))

/-- Look through `n` records from `pos` for the address of `target`. -/
def findAddress (p : ByteArray) (target : String) : Nat → Nat → Except DnsError (Option Ipv4)
  | 0, _ => .ok none
  | n + 1, pos => do
    let r ← readRecord p pos
    if h : r.IsAddressOf target then return some (r.address h.2.2.1)
    else findAddress p target n r.next

/-- The address of `hostname` in an answer packet, if the packet gives one. -/
def parseResponse (p : ByteArray) (hostname : String) : Except DnsError (Option Ipv4) := do
  if p.size < headerLength then throw (.truncated p.size)
  let flags ← u16At p 2
  if flags / responseFlag % 2 == 0 then return none
  let target := stripTrailingDots hostname
  let questions ← u16At p 4
  let an ← u16At p 6
  let ns ← u16At p 8
  let ar ← u16At p 10
  let pos ← skipQuestions p questions headerLength
  findAddress p target (an + ns + ar) pos

end PoolMonitor.Discovery
