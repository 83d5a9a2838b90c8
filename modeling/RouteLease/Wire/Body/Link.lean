import RouteLease.Wire.Attr
import RouteLease.Wire.Event

/-!
# The body of a link message

A link message (types 16 to 19) has a sixteen-octet header (family, device type, index, flags,
change mask) followed by the link's attributes (`IFLA_*`). Most attributes are numbers or text;
some nest attribute lists of their own, and two (`IFLA_PROTINFO`, `IFLA_AF_SPEC`) are read by the
message's family. The daemon keeps the index, the flags and the interface name.
-/

namespace RouteLease.Wire

open Layout

/-- The link-information attribute (`IFLA_LINKINFO`): a list in which the kind of the link and of
its port are text, and the data of each must come after its kind. -/
def linkInfoCheck : List Attr → Bool → Bool → Except DecodeError Unit
  | [], _, _ => .ok ()
  | a :: rest, kind, portKind =>
    match a.kind with
    | 1 => do
      (value "IFLA_INFO_KIND" .text).check a.payload
      linkInfoCheck rest true portKind
    | 4 => do
      (value "IFLA_INFO_PORT_KIND" .text).check a.payload
      linkInfoCheck rest kind true
    | 2 =>
      if kind then linkInfoCheck rest kind portKind
      else .error (.other "IFLA_INFO_DATA is not preceded by an IFLA_INFO_KIND")
    | 3 =>
      if kind then linkInfoCheck rest kind portKind
      else .error (.other "IFLA_INFO_XSTATS is not preceded by an IFLA_INFO_KIND")
    | 5 =>
      if portKind then linkInfoCheck rest kind false
      else .error (.other "IFLA_INFO_PORT_DATA is not preceded by an IFLA_INFO_PORT_KIND")
    | _ => linkInfoCheck rest kind portKind

/-- The layout of `IFLA_LINKINFO`; framing errors come after the attributes before them. -/
def linkInfo : Layout :=
  quoting "invalid IFLA_LINKINFO value" <| .custom fun p =>
    let (as, err) := splitAttrs p
    match linkInfoCheck as false false, err with
    | .error e, _ => .error e
    | .ok (), some e => .error e
    | .ok (), none => .ok ()

/-- The attributes of an express-data-path attribute (`IFLA_XDP_*`). -/
def xdpItem : Nat → Layout
  | 1 => value "IFLA_XDP_FD" (.number 4)
  | 2 => value "IFLA_XDP_ATTACHED" (.number 1)
  | 3 => value "IFLA_XDP_FLAGS" (.number 4)
  | 4 => value "IFLA_XDP_PROG_ID" (.number 4)
  | 5 => value "IFLA_XDP_DRV_PROG_ID" (.number 4)
  | 6 => value "IFLA_XDP_SKB_PROG_ID" (.number 4)
  | 7 => value "IFLA_XDP_HW_PROG_ID" (.number 4)
  | 8 => value "IFLA_XDP_EXPECTED_FD" (.number 4)
  | _ => .raw

/-- The attributes of the bridge part of `IFLA_AF_SPEC` (`IFLA_BRIDGE_*`). -/
def bridgeSpecItem : Nat → Layout
  | 0 => value "IFLA_BRIDGE_FLAGS" (.number 2)
  | 1 => value "IFLA_BRIDGE_MODE" (.number 2)
  | 2 => value "IFLA_BRIDGE_VLAN_INFO" (.block "BridgeVlanInfoBuffer" 4)
  | _ => .raw

/-- The per-family attributes of `IFLA_AF_SPEC` in a message of no family: the IPv4 and IPv6
parts nest lists of their own. -/
def unspecSpecItem : Nat → Layout
  | 2 => named "Invalid NLA for IFLA_AF_SPEC(AF_INET)" (framed none)
  | 10 => named "Invalid NLA for IFLA_AF_SPEC(AF_INET6)" (framed none)
  | _ => .raw

/-- The layout of `IFLA_AF_SPEC`, by the message's family: read for no family and for bridges,
kept as octets otherwise. -/
def afSpec (family : UInt8) : Layout :=
  if family = 0 then
    named "invalid IFLA_AF_SPEC value for AF_UNSPEC" <|
      named "Invalid NLA for IFLA_AF_SPEC(AF_UNSPEC)" (.attrs none unspecSpecItem)
  else if family = 7 then
    named "invalid IFLA_AF_SPEC value for AF_BRIDGE" <|
      named "Invalid NLA for IFLA_AF_SPEC(AF_BRIDGE)" (.attrs none bridgeSpecItem)
  else .raw

/-- The layout of `IFLA_PROTINFO`, by the message's family: a list for IPv6 and for bridges,
kept as octets otherwise. -/
def protInfo (family : UInt8) : Layout :=
  if family = 10 then quoting "invalid IFLA_PROTINFO for AF_INET6" (.headed (framed none))
  else if family = 7 then .headed (framed none)
  else .raw

/-- The layout of each link attribute (`IFLA_*`) in a message of the given family. -/
def linkItem (family : UInt8) : Nat → Layout
  | 3 => value "IFLA_IFNAME" .text
  | 4 => value "IFLA_MTU" (.number 4)
  | 5 => value "IFLA_LINK" (.number 4)
  | 6 => value "IFLA_QDISC" .text
  | 10 => value "IFLA_MASTER" (.number 4)
  | 12 => protInfo family
  | 13 => value "IFLA_TXQLEN" (.number 4)
  | 14 => quoting "Invalid IFLA_MAP value" (.block "MapBuffer" 32)
  | 16 => value "IFLA_OPERSTATE" (.number 1)
  | 17 => value "IFLA_LINKMODE" (.number 1)
  | 18 => linkInfo
  | 19 => value "IFLA_NET_NS_PID" (.number 4)
  | 20 => value "IFLA_IFALIAS" .text
  | 21 => value "IFLA_NUM_VF" (.number 4)
  | 22 => quoting "invalid IFLA_VFINFO_LIST" (.headed (.attrs none fun _ => framed none))
  | 24 => quoting "invalid IFLA_VF_PORTS" (.headed (.attrs none fun _ => framed none))
  | 25 => quoting "invalid IFLA_PORT_SELF" (.headed (framed none))
  | 26 => afSpec family
  | 27 => value "IFLA_GROUP" (.number 4)
  | 28 => value "IFLA_NET_NS_FD" (.number 4)
  | 29 => value "IFLA_EXT_MASK" (.number 4)
  | 30 => value "IFLA_PROMISCUITY" (.number 4)
  | 31 => value "IFLA_NUM_TX_QUEUES" (.number 4)
  | 32 => value "IFLA_NUM_RX_QUEUES" (.number 4)
  | 33 => value "IFLA_CARRIER" (.number 1)
  | 35 => value "IFLA_CARRIER_CHANGES" (.number 4)
  | 37 => value "IFLA_LINK_NETNSID" (.number 4)
  | 38 => value "IFLA_PHYS_PORT_NAME" .text
  | 39 => value "IFLA_PROTO_DOWN" (.number 1)
  | 40 => value "IFLA_GSO_MAX_SEGS" (.number 4)
  | 41 => value "IFLA_GSO_MAX_SIZE" (.number 4)
  | 43 => value "IFLA_XDP" (.headed (.attrs none xdpItem))
  | 44 => quoting "invalid IFLA_EVENT" (value "IFLA_EVENT" (.number 4))
  | 45 => value "IFLA_NEW_NETNSID" (.number 4)
  | 46 => value "IFLA_IF_NETNSID" (.number 4)
  | 47 => value "IFLA_CARRIER_UP_COUNT" (.number 4)
  | 48 => value "IFLA_CARRIER_DOWN_COUNT" (.number 4)
  | 49 => value "IFLA_NEW_IFINDEX" (.number 4)
  | 50 => value "IFLA_MIN_MTU" (.number 4)
  | 51 => value "IFLA_MAX_MTU" (.number 4)
  | 52 => value "IFLA_PROP_LIST" (.attrs none fun k =>
      if k = 53 then value "IFLA_ALT_IFNAME" .text else .raw)
  | 55 => value "IFLA_PROTO_DOWN_REASON" (.attrs none fun k =>
      if k = 1 then value "IFLA_PROTO_DOWN_REASON_MASK" (.number 4)
      else if k = 2 then value "IFLA_PROTO_DOWN_REASON_VALUE" (.number 4)
      else .raw)
  | _ => .raw

/-- Checks one link attribute; the interface name attribute yields the name. -/
def linkAttr (family : UInt8) (a : Attr) : Except DecodeError (Option String) := do
  (linkItem family a.kind).check a.payload
  if a.kind = 3 then
    match readText a.payload with
    | .ok s => pure (some s)
    | .error e => throw e
  else pure none

/-- Reads the body of a link message (types 16 to 19). A get request may carry only the
four-octet family header. -/
def decodeLink (t : Nat) (p : List UInt8) : Except DecodeError KernelEvent :=
  if p.length < 16 then
    if p.length = 4 && t = 18 then .ok (.other t)
    else .error (.header "LinkMessageBuffer" 16 p.length)
  else
    match checkAttrs (linkAttr (p.getD 0 0)) (p.drop 16) with
    | .error e => .error (.context "invalid link message" (.context "failed to parse link message NLAs" e))
    | .ok names =>
      let event : LinkEvent :=
        { change := if t = 17 then .del else .new, index := (getU32 (p.drop 4)).toUInt32,
          flags := (getU32 (p.drop 8)).toUInt32, name := names.findSome? id }
      if t = 16 || t = 17 then .ok (.link event) else .ok (.other t)

end RouteLease.Wire
