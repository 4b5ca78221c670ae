/-!
# IPv4 addresses

An address is four octets, written in dotted decimal. `Ipv4.parse?` accepts exactly four
decimal octets of one to three digits each, with no leading zero (`0` itself apart), each at
most 255.
-/

namespace PoolMonitor.Discovery

/-- An IPv4 address. -/
structure Ipv4 where
  a : UInt8
  b : UInt8
  c : UInt8
  d : UInt8
  deriving Repr, BEq, DecidableEq, Inhabited

/-- The unspecified address `0.0.0.0`. -/
def Ipv4.unspecified : Ipv4 := ⟨0, 0, 0, 0⟩

/-- Dotted decimal text. -/
def Ipv4.toText (ip : Ipv4) : String :=
  ".".intercalate [toString ip.a.toNat, toString ip.b.toNat, toString ip.c.toNat, toString ip.d.toNat]

/-- One octet: one to three digits, no leading zero, at most 255. -/
def octet? (s : String) : Option UInt8 :=
  let cs := s.toList
  if cs.isEmpty ∨ cs.length > 3 ∨ !cs.all Char.isDigit then none
  else if cs.length > 1 ∧ cs.head? = some '0' then none
  else
    let n : Nat := cs.foldl (fun acc ch => acc * 10 + (ch.toNat - 48)) 0
    if n ≤ 255 then some n.toUInt8 else none

/-- Read dotted decimal text. -/
def Ipv4.parse? (s : String) : Option Ipv4 :=
  match s.splitOn "." with
  | [a, b, c, d] => do pure ⟨← octet? a, ← octet? b, ← octet? c, ← octet? d⟩
  | _ => none

end PoolMonitor.Discovery
