/-!
# IP addresses

Addresses of both versions and the classes of addresses that matter for a host: loopback,
link-local, private, unspecified, multicast and broadcast. `Ip.canonical` turns an IPv4 address that
is mapped into IPv6 back into IPv4.
-/

namespace HostAlert.Address

/-- An IPv4 address by its four bytes. -/
structure V4 where
  b0 : UInt8
  b1 : UInt8
  b2 : UInt8
  b3 : UInt8
  deriving DecidableEq

/-- An IPv6 address by its eight groups of 16 bits. -/
structure V6 where
  g0 : UInt16
  g1 : UInt16
  g2 : UInt16
  g3 : UInt16
  g4 : UInt16
  g5 : UInt16
  g6 : UInt16
  g7 : UInt16
  deriving DecidableEq

inductive Ip
  | v4 (a : V4)
  | v6 (a : V6)
  deriving DecidableEq

namespace V4

def localhost : V4 := ⟨127, 0, 0, 1⟩

def isLoopback (a : V4) : Bool := a.b0 == 127

def isLinkLocal (a : V4) : Bool := a.b0 == 169 && a.b1 == 254

/-- The ranges 10/8, 172.16/12 and 192.168/16. -/
def isPrivate (a : V4) : Bool :=
  a.b0 == 10 || (a.b0 == 172 && a.b1.toNat / 16 == 1) || (a.b0 == 192 && a.b1 == 168)

def isUnspecified (a : V4) : Bool := a == ⟨0, 0, 0, 0⟩

def isMulticast (a : V4) : Bool := a.b0.toNat / 16 == 14

def isBroadcast (a : V4) : Bool := a == ⟨255, 255, 255, 255⟩

/-- The two groups that hold the address inside an IPv6 address. -/
def groups (a : V4) : List UInt16 :=
  [a.b0.toUInt16 * 256 + a.b1.toUInt16, a.b2.toUInt16 * 256 + a.b3.toUInt16]

end V4

namespace V6

/-- The groups, most significant first. -/
def groups (a : V6) : List UInt16 :=
  [a.g0, a.g1, a.g2, a.g3, a.g4, a.g5, a.g6, a.g7]

def ofGroups? : List UInt16 → Option V6
  | [g0, g1, g2, g3, g4, g5, g6, g7] => some ⟨g0, g1, g2, g3, g4, g5, g6, g7⟩
  | _ => none

@[simp] theorem ofGroups?_groups (a : V6) : ofGroups? a.groups = some a := rfl

def isLoopback (a : V6) : Bool := a == ⟨0, 0, 0, 0, 0, 0, 0, 1⟩

/-- The range fe80::/10. -/
def isLinkLocal (a : V6) : Bool := a.g0.toNat / 64 == 0xFE80 / 64

/-- The unique local addresses fc00::/7. -/
def isPrivate (a : V6) : Bool := a.g0.toNat / 512 == 0xFC00 / 512

def isUnspecified (a : V6) : Bool := a == ⟨0, 0, 0, 0, 0, 0, 0, 0⟩

def isMulticast (a : V6) : Bool := a.g0.toNat / 256 == 0xFF

/-- The IPv4 address that is mapped into IPv6, if it is one. -/
def mapped? (a : V6) : Option V4 :=
  if a.g0 = 0 ∧ a.g1 = 0 ∧ a.g2 = 0 ∧ a.g3 = 0 ∧ a.g4 = 0 ∧ a.g5 = 0xFFFF then
    some ⟨(a.g6 / 256).toUInt8, (a.g6 % 256).toUInt8, (a.g7 / 256).toUInt8, (a.g7 % 256).toUInt8⟩
  else none

end V6

namespace Ip

/-- The address, in IPv4 when it is mapped from there. -/
def canonical : Ip → Ip
  | v4 a => v4 a
  | v6 a => match a.mapped? with
    | some b => v4 b
    | none => v6 a

def isLoopback : Ip → Bool
  | v4 a => a.isLoopback
  | v6 a => a.isLoopback

def isLinkLocal : Ip → Bool
  | v4 a => a.isLinkLocal
  | v6 a => a.isLinkLocal

def isPrivate : Ip → Bool
  | v4 a => a.isPrivate
  | v6 a => a.isPrivate

def isUnspecified : Ip → Bool
  | v4 a => a.isUnspecified
  | v6 a => a.isUnspecified

def isMulticast : Ip → Bool
  | v4 a => a.isMulticast
  | v6 a => a.isMulticast

def isBroadcast : Ip → Bool
  | v4 a => a.isBroadcast
  | v6 _ => false

/-- Whether the address names a single host beyond this one. -/
def isUnicast (a : Ip) : Bool :=
  !a.isUnspecified && !a.isMulticast && !a.isBroadcast

end Ip

end HostAlert.Address
