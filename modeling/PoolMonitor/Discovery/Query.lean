import PoolMonitor.Text.Utf8
/-!
# Multicast DNS queries

A query asks for the IPv4 address (type A, class IN) of a host name. The packet is a header
(the id, zero flags, one question, no other records) followed by the name as length-prefixed
labels and a zero byte, then the type and class.

The labels come from the host name without its trailing dots, split at dots; empty labels are
left out, and a label longer than 63 bytes keeps its first 63 bytes, even when that cuts a
character in two.
-/

namespace PoolMonitor.Discovery

/-- The length of a DNS header. -/
def headerLength : Nat := 12

/-- The record type of an IPv4 address. -/
def typeA : Nat := 1

/-- The Internet class. -/
def classIn : Nat := 1

/-- The longest label. -/
def maxLabel : Nat := 63

/-- The two bytes of a 16-bit number, high byte first. -/
def be16 (n : Nat) : List Nat := [n / 256 % 256, n % 256]

/-- A host name without its trailing dots. -/
def stripTrailingDots (s : String) : String :=
  String.ofList (s.toList.reverse.dropWhile (· = '.')).reverse

/-- The labels of a host name, as bytes. -/
def queryLabels (hostname : String) : List (List Nat) :=
  ((stripTrailingDots hostname).toList.splitOn '.').filterMap fun label =>
    if label.isEmpty then none else some ((Text.Utf8.bytesOf (String.ofList label)).take maxLabel)

/-- Labels in wire form: each preceded by its length, then a zero byte. -/
def encodeName : List (List Nat) → List Nat
  | [] => [0]
  | l :: rest => l.length :: l ++ encodeName rest

/-- The query packet asking for the address of `hostname`. -/
def buildQuery (id : Nat) (hostname : String) : List Nat :=
  be16 id ++ be16 0 ++ be16 1 ++ [0, 0, 0, 0, 0, 0] ++ encodeName (queryLabels hostname)
    ++ be16 typeA ++ be16 classIn

end PoolMonitor.Discovery
