import PoolMonitor.Discovery.Address
/-!
# Choosing the multicast interface

Multicast queries go out on the first interface that is up, can multicast, is not a loopback
and has an IPv4 address (joined by that address). Failing that, the first interface that is up
and can multicast is used by its index; failing that, the system's default. Group membership
uses the interface's address, or the unspecified address when there is none.
-/

namespace PoolMonitor.Discovery

/-- What is known of a network interface. -/
structure InterfaceInfo where
  name : String
  index : Nat
  up : Bool
  multicast : Bool
  loopback : Bool
  ipv4 : Option Ipv4
  deriving Repr, Inhabited

/-- The interface multicast traffic uses. -/
inductive MulticastInterface where
  | addr (name : String) (addr : Ipv4)
  | index (name : String) (index : Nat)
  | systemDefault
  deriving Repr, BEq

/-- The address to join the multicast group with. -/
def MulticastInterface.membershipAddr : MulticastInterface → Ipv4
  | .addr _ a => a
  | _ => Ipv4.unspecified

/-- Choose the interface for multicast queries. -/
def selectInterface (ifaces : List InterfaceInfo) : MulticastInterface :=
  let usable := ifaces.filter (fun i => i.up && i.multicast && !i.loopback)
  match usable.findSome? (fun i => i.ipv4.map (fun a => (i.name, a))) with
  | some (n, a) => .addr n a
  | none =>
    match ifaces.find? (fun i => i.up && i.multicast) with
    | some i => .index i.name i.index
    | none => .systemDefault

end PoolMonitor.Discovery
