import RouteLease.Address.Text
import RouteLease.Wire.Error

/-!
# Route messages

A route request is a netlink header, a route header (`rtmsg`) and a list of attributes, each a
length, a type and a payload padded to four octets. `RouteRequest` builds one under a fixed
capacity: creating it and every append check the length first, and a failed append leaves the
request as it was. `encodeRoute` turns a host route of the daemon into the octets it sends:
destination, output interface (unicast only), priority, then gateway (unicast with a gateway
only).
-/

namespace RouteLease.Wire

/-- Whether a route is being installed or withdrawn. -/
inductive RouteOp where
  | install
  | withdraw
  deriving DecidableEq, Repr

namespace RouteOp

/-- The message type: `RTM_NEWROUTE` (24) to install, `RTM_DELROUTE` (25) to withdraw. -/
def messageType : RouteOp → Nat
  | install => 24
  | withdraw => 25

/-- The header flags: request, create and replace (0x0501) to install, request alone to
withdraw. -/
def flags : RouteOp → Nat
  | install => 0x0501
  | withdraw => 0x0001

end RouteOp

/-- A regular route through the interface, or a killswitch blackhole route. -/
inductive RouteKind where
  | unicast
  | blackhole
  deriving DecidableEq, Repr

/-- The route type byte: `RTN_UNICAST` (1) or `RTN_BLACKHOLE` (6). -/
def RouteKind.code : RouteKind → UInt8
  | .unicast => 1
  | .blackhole => 6

/-- A host route change the daemon pushes to the main table. The output interface and the
gateway only matter for unicast routes. -/
structure RouteSpec where
  op : RouteOp
  kind : RouteKind
  dest : IpAddress
  oif : UInt32
  metric : UInt32
  gateway : Option IpAddress
  deriving DecidableEq

/-- The fixed route header (`rtmsg`) of a request. -/
structure RouteHeader where
  family : UInt8
  dstLen : UInt8
  srcLen : UInt8 := 0
  tos : UInt8 := 0
  table : UInt8
  protocol : UInt8
  scope : UInt8
  kind : UInt8
  flags : UInt32 := 0
  deriving DecidableEq

namespace RouteHeader

/-- The header of a host route of `family` in the main table (254), static protocol (4),
universe scope (0), with the given route type. -/
def forHost (family : IpFamily) (kind : UInt8) : RouteHeader :=
  { family := family.code, dstLen := family.hostPrefixLen.toUInt8, table := 254, protocol := 4,
    scope := 0, kind := kind }

/-- The twelve octets of the header. -/
def encode (h : RouteHeader) : List UInt8 :=
  [h.family, h.dstLen, h.srcLen, h.tos, h.table, h.protocol, h.scope, h.kind] ++ putU32 h.flags.toNat

end RouteHeader

/-- An attribute a route request can carry. -/
inductive RouteAttr where
  | dst (address : IpAddress)
  | gateway (address : IpAddress)
  | oif (index : UInt32)
  | priority (metric : UInt32)
  | table (id : UInt32)
  deriving DecidableEq

namespace RouteAttr

/-- The attribute type: `RTA_DST` 1, `RTA_OIF` 4, `RTA_GATEWAY` 5, `RTA_PRIORITY` 6,
`RTA_TABLE` 15. -/
def code : RouteAttr → Nat
  | dst _ => 1
  | oif _ => 4
  | gateway _ => 5
  | priority _ => 6
  | table _ => 15

/-- The payload: the address's octets, or a 32-bit number. -/
def payload : RouteAttr → List UInt8
  | dst a => a.octets
  | gateway a => a.octets
  | oif n => putU32 n.toNat
  | priority n => putU32 n.toNat
  | table n => putU32 n.toNat

/-- The octets the attribute takes in a message, padding included. -/
def size (a : RouteAttr) : Nat :=
  align4 (4 + a.payload.length)

/-- The attribute as written: length, type, payload, padding. -/
def encode (a : RouteAttr) : List UInt8 :=
  putU16 (4 + a.payload.length) ++ putU16 a.code ++ a.payload ++ padding (4 + a.payload.length)

end RouteAttr

/-- Octets of the netlink header and the route header together. -/
def routeHeaderLength : Nat := 28

/-- The capacity the daemon gives every route request. -/
def routeCapacity : Nat := 128

/-- A route request being built under a capacity. -/
structure RouteRequest where
  op : RouteOp
  header : RouteHeader
  seq : UInt32
  capacity : Nat
  /-- The attributes appended so far, in order. -/
  attrs : List RouteAttr

namespace RouteRequest

/-- The encoded length: both headers and every attribute. -/
def length (m : RouteRequest) : Nat :=
  routeHeaderLength + (m.attrs.map RouteAttr.size).foldr (· + ·) 0

/-- Whether no attribute has been appended. -/
def isEmpty (m : RouteRequest) : Bool :=
  m.attrs.isEmpty

/-- A request without attributes; fails when even the headers exceed the capacity. -/
def create (op : RouteOp) (header : RouteHeader) (seq : UInt32) (capacity : Nat) :
    Except CodecError RouteRequest :=
  if routeHeaderLength > capacity then .error (.bufferOverflow routeHeaderLength capacity)
  else .ok { op, header, seq, capacity, attrs := [] }

/-- Appends an attribute, or fails without change when it would not fit. -/
def push (m : RouteRequest) (a : RouteAttr) : Except CodecError RouteRequest :=
  if m.length + a.size > m.capacity then .error (.bufferOverflow (m.length + a.size) m.capacity)
  else .ok { m with attrs := m.attrs ++ [a] }

/-- The octets of the request: netlink header with the final length, route header, attributes. -/
def encode (m : RouteRequest) : List UInt8 :=
  putU32 m.length ++ putU16 m.op.messageType ++ putU16 m.op.flags ++ putU32 m.seq.toNat
    ++ putU32 0 ++ m.header.encode ++ m.attrs.flatMap RouteAttr.encode

end RouteRequest

/-- The request for a route: its destination must be valid, and a unicast route's gateway
must be valid and of the destination's family. -/
def encodeRoute (s : RouteSpec) (seq : UInt32) : Except CodecError (List UInt8) := do
  let some family := s.dest.family? | throw (.invalidAddress s.dest.display)
  let m ← RouteRequest.create s.op (RouteHeader.forHost family s.kind.code) seq routeCapacity
  let m ← m.push (.dst s.dest)
  let m ← if s.kind = .unicast then m.push (.oif s.oif) else pure m
  let m ← m.push (.priority s.metric)
  let m ← match s.kind, s.gateway with
    | .unicast, some g =>
      if g.isOf family then m.push (.gateway g)
      else throw (.invalidAddress ("gateway " ++ g.display ++ " does not match destination "
        ++ s.dest.display))
    | _, _ => pure m
  pure m.encode

end RouteLease.Wire
