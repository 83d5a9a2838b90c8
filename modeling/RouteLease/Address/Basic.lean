/-!
# IP addresses

An address is the invalid placeholder, an IPv4 address of four octets or an IPv6 address of
sixteen. Raw octets of any other length give the invalid address, so every byte string names
exactly one address (`ofOctets`).

The order is the one derived for the enum of addresses: every invalid address first, then every
IPv4 address, then every IPv6 address, and two addresses of one family by the standard library's
order of that family, IPv4 by its octets and IPv6 by its sixteen-bit segments
(`IpAddress.compare`). The route table, the interface snapshot and every listing of the daemon are
sorted by it.
-/

namespace RouteLease

/-- The family of a valid address. -/
inductive IpFamily where
  | v4
  | v6
  deriving DecidableEq, Repr

namespace IpFamily

/-- The family's name as the daemon prints it. -/
def name : IpFamily → String
  | v4 => "IPv4"
  | v6 => "IPv6"

/-- The prefix length of a host route: the whole address. -/
def hostPrefixLen : IpFamily → Nat
  | v4 => 32
  | v6 => 128

/-- The kernel's number for the family (`AF_INET` is 2, `AF_INET6` is 10). -/
def code : IpFamily → UInt8
  | v4 => 2
  | v6 => 10

/-- Octets in an address of the family. -/
def width : IpFamily → Nat
  | v4 => 4
  | v6 => 16

end IpFamily

/-- An address as the daemon stores it: the invalid placeholder, or the octets of an IPv4 or an
IPv6 address in network order. -/
inductive IpAddress where
  | invalid
  | v4 (octets : Vector UInt8 4)
  | v6 (octets : Vector UInt8 16)
  deriving DecidableEq

namespace IpAddress

/-- The default address is the invalid one. -/
instance : Inhabited IpAddress := ⟨invalid⟩

/-- The address of a raw octet string: four octets give IPv4, sixteen give IPv6, and any other
length gives the invalid address. -/
def ofOctets (b : List UInt8) : IpAddress :=
  if h : b.length = 4 then .v4 ⟨b.toArray, by simpa using h⟩
  else if h : b.length = 16 then .v6 ⟨b.toArray, by simpa using h⟩
  else .invalid

/-- The octets of an address in network order; the invalid address has none. -/
def octets : IpAddress → List UInt8
  | invalid => []
  | v4 o => o.toList
  | v6 o => o.toList

/-- The family of a valid address. -/
def family? : IpAddress → Option IpFamily
  | invalid => none
  | v4 _ => some .v4
  | v6 _ => some .v6

/-- Whether the address is a real IPv4 or IPv6 address. -/
def isValid : IpAddress → Bool
  | invalid => false
  | _ => true

/-- Whether the address belongs to `family`. -/
def isOf (a : IpAddress) (family : IpFamily) : Bool :=
  a.family? == some family

/-- The sixteen-bit groups of an octet string, most significant octet first. -/
def groups : List UInt8 → List Nat
  | a :: b :: rest => (a.toNat * 256 + b.toNat) :: groups rest
  | _ => []

/-- The address order derived for the enum: the kinds in their order (invalid, IPv4, IPv6), and
two addresses of one family by the standard library's order of that family. IPv4 addresses compare
their octet arrays element by element, IPv6 addresses their eight sixteen-bit segments. -/
protected def compare : IpAddress → IpAddress → Ordering
  | invalid, invalid => .eq
  | invalid, _ => .lt
  | v4 _, invalid => .gt
  | v4 a, v4 b => compare a.toList b.toList
  | v4 _, v6 _ => .lt
  | v6 a, v6 b => compare (groups a.toList) (groups b.toList)
  | v6 _, _ => .gt

/-- Addresses are ordered by the derived order. -/
instance : Ord IpAddress := ⟨IpAddress.compare⟩

/-- Link-local addresses: 169.254.0.0/16 and fe80::/10. An IPv4-mapped IPv6 address is judged as
IPv6, so it is never link-local. -/
def isLinkLocal : IpAddress → Bool
  | invalid => false
  | v4 o => o[0] == 169 && o[1] == 254
  | v6 o => o[0] == 0xfe && (o[1] &&& 0xc0) == 0x80

/-- The address `a.b.c.d`. -/
def ofV4 (a b c d : UInt8) : IpAddress := ofOctets [a, b, c, d]

end IpAddress

end RouteLease
