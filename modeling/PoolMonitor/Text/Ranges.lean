/-!
# Character classes as code point ranges

A class of characters from a Unicode property is a sorted array of closed code point ranges.
Membership is a scan of the ranges; the tables are a few hundred entries long.
-/

namespace PoolMonitor.Text

/-- A character class: closed ranges of code points, in increasing order. -/
abbrev Ranges := Array (Nat × Nat)

/-- Whether the code point `n` lies in one of the ranges. -/
def Ranges.contains (t : Ranges) (n : Nat) : Bool :=
  t.any (fun r => r.1 ≤ n && n ≤ r.2)

end PoolMonitor.Text
