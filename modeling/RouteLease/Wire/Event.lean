import RouteLease.Address.Basic

/-!
# Kernel events

What one message of a received datagram says, in the daemon's terms: a link, address or route
that appeared or went away, the end of a multipart dump, an error or acknowledgement, or a
message of another type that the daemon does not look into.
-/

namespace RouteLease.Wire

/-- Whether an object appeared (or changed) or went away. -/
inductive Change where
  | new
  | del
  deriving DecidableEq, Repr

/-- A link message: the interface's index, flags and name. -/
structure LinkEvent where
  change : Change
  index : UInt32
  flags : UInt32
  /-- The first interface name attribute, if any. -/
  name : Option String
  deriving DecidableEq

/-- Link flag: the interface is up (`IFF_UP`). -/
def iffUp : UInt32 := 0x1

/-- Link flag: the interface is point-to-point (`IFF_POINTOPOINT`). -/
def iffPointToPoint : UInt32 := 0x10

/-- Link flag: the interface's carrier is running (`IFF_RUNNING`). -/
def iffRunning : UInt32 := 0x40

/-- Whether a link is up and running. -/
def LinkEvent.running (e : LinkEvent) : Bool :=
  (e.flags &&& (iffUp ||| iffRunning)) == (iffUp ||| iffRunning)

/-- Whether a link is point-to-point. -/
def LinkEvent.pointToPoint (e : LinkEvent) : Bool :=
  (e.flags &&& iffPointToPoint) != 0

/-- An address message. The family is 2 or 10, or 0 for any other family; each address is the
last attribute of its type. -/
structure AddressEvent where
  change : Change
  family : UInt8
  prefixLen : UInt8
  index : UInt32
  localAddr : Option IpAddress
  addr : Option IpAddress
  broadcast : Option IpAddress
  deriving DecidableEq

/-- A route message. The family is 2 or 10, or 0 for any other family; a route table attribute
overrides the header's table byte, and addresses of another family read as invalid. -/
structure RouteEvent where
  change : Change
  family : UInt8
  dstLen : UInt8
  table : UInt32
  protocol : UInt8
  scope : UInt8
  routeType : UInt8
  dest : Option IpAddress
  oif : Option UInt32
  priority : Option UInt32
  gateway : Option IpAddress
  deriving DecidableEq

/-- One message of a received datagram. -/
inductive KernelEvent where
  | link (e : LinkEvent)
  | address (e : AddressEvent)
  | route (e : RouteEvent)
  /-- The end of a multipart dump. -/
  | done
  /-- An error report; errno 0 is an acknowledgement. -/
  | error (errno : Int)
  /-- Any other message, by type. -/
  | other (msgType : Nat)
  deriving DecidableEq

end RouteLease.Wire
