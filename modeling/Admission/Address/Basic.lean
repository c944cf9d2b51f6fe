/-!
# Internet addresses

Addresses of version 4 and 6, and the socket addresses made of one and a port.  Text is
canonical: each address has one written form.

* `Ipv6.zeroRun` — the run of zero groups that is left out: the longest of two or more, the
  first of equals;
* `SocketAddress.ip` — the address without port, flow label and scope.
-/

namespace Admission

/-- An address of version 4: four bytes. -/
structure Ipv4 where
  octets : Vector UInt8 4
deriving DecidableEq

/-- An address of version 6: eight groups of sixteen bits. -/
structure Ipv6 where
  groups : Vector UInt16 8
deriving DecidableEq

/-- An address of either version. -/
inductive IpAddress where
  | v4 (ip : Ipv4)
  | v6 (ip : Ipv6)
deriving DecidableEq

/-- An address and a port.  In version 6 there are a flow label and a scope as well. -/
inductive SocketAddress where
  | v4 (ip : Ipv4) (port : UInt16)
  | v6 (ip : Ipv6) (port : UInt16) (flow : UInt32) (scope : UInt32)
deriving DecidableEq

/-- The texts of a list, with a separator between neighbours. -/
def joined (separator : String) (parts : List String) : String :=
  separator.intercalate parts

namespace Ipv4

/-- The address by which a host reaches itself. -/
def loopback : Ipv4 :=
  ⟨#v[127, 0, 0, 1]⟩

/-- Four decimal numbers with points between them. -/
def write (ip : Ipv4) : String :=
  joined "." (ip.octets.toList.map fun b => toString b.toNat)

end Ipv4

namespace Ipv6

/-- A group in hexadecimal, without leading zeros. -/
def writeGroup (g : UInt16) : String :=
  String.ofList (Nat.toDigits 16 g.toNat)

/-- Groups with colons between them. -/
def writeGroups (groups : List UInt16) : String :=
  joined ":" (groups.map writeGroup)

/-- How many zero groups a list begins with. -/
def leadingZeros (groups : List UInt16) : Nat :=
  (groups.takeWhile (· == 0)).length

/-- The place and length of the longest run of zero groups, the first of equals. -/
def zeroRun : List UInt16 → Nat × Nat
  | [] => (0, 0)
  | g :: rest =>
    let here := leadingZeros (g :: rest)
    let (place, length) := zeroRun rest
    if length ≤ here then (0, here) else (place + 1, length)

/-- The address of version 4 that an address maps, if its first ten bytes are zero and the next
two are all ones. -/
def mapped? (ip : Ipv6) : Option Ipv4 :=
  match ip.groups.toList with
  | [0, 0, 0, 0, 0, 0xffff, high, low] =>
    some ⟨#v[high.toNat / 256, high.toNat % 256, low.toNat / 256, low.toNat % 256].map
      UInt8.ofNat⟩
  | _ => none

/-- The text of an address: a mapped one shows the address it maps, any other leaves out its
longest run of zero groups. -/
def write (ip : Ipv6) : String :=
  match ip.mapped? with
  | some inner => "::ffff:" ++ inner.write
  | none =>
    let groups := ip.groups.toList
    let (place, length) := zeroRun groups
    if 2 ≤ length then
      writeGroups (groups.take place) ++ "::" ++ writeGroups (groups.drop (place + length))
    else writeGroups groups

end Ipv6

/-- The text of an address. -/
def IpAddress.write : IpAddress → String
  | .v4 ip => ip.write
  | .v6 ip => ip.write

namespace SocketAddress

/-- The address without its port. -/
def ip : SocketAddress → IpAddress
  | .v4 ip _ => .v4 ip
  | .v6 ip _ _ _ => .v6 ip

/-- The port. -/
def port : SocketAddress → UInt16
  | .v4 _ port => port
  | .v6 _ port _ _ => port

/-- The address, in brackets in version 6 and there with a scope that is not zero, and the
port. -/
def write : SocketAddress → String
  | .v4 ip port => ip.write ++ ":" ++ toString port.toNat
  | .v6 ip port _ scope =>
    "[" ++ ip.write ++ (if scope = 0 then "" else "%" ++ toString scope.toNat) ++ "]:"
      ++ toString port.toNat

end SocketAddress
end Admission
