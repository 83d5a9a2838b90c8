import RouteLease.Wire.Body.Address

/-!
# The body of a route message

A route message (types 24 to 26) has a twelve-octet header (family, destination and source
prefix lengths, type of service, table, protocol, scope, route type, flags) followed by its
attributes (`RTA_*`). Addresses take the width of the message's family. Some attributes nest
lists: the metrics, the next hops of a multipath route (each a header and route attributes of its
own), and the encapsulation of a lightweight tunnel, whose type is given by another attribute that
may come after it. The daemon keeps the destination, gateway, output interface, priority and table.
-/

namespace RouteLease.Wire

open Layout

/-- The name of an encapsulation type of a lightweight tunnel, as errors give it. -/
def encapName : Nat → String
  | 0 => "none"
  | 1 => "mpls"
  | 2 => "ip"
  | 3 => "ila"
  | 4 => "ip6"
  | 5 => "seg6"
  | 6 => "bpf"
  | 7 => "seg6local"
  | 8 => "rpl"
  | 9 => "xfrm"
  | n => toString n

/-- The layout of `RTA_ENCAP` under an encapsulation type: a list of the tunnel's attributes. -/
def encapLayout (encap : Nat) : Layout :=
  .attrs (some ("Invalid RTA_ENCAP for kind: " ++ encapName encap)) fun k =>
    named ("Failed to parse RTA_ENCAP for kind: " ++ encapName encap) <|
      if encap = 1 && k = 2 then value "MPLS_IPTUNNEL_TTL" (.number 1) else .raw

/-- The name of each route metric (`RTAX_*`), all 32-bit numbers. -/
def metricName : Nat → Option String
  | 1 => some "RTAX_LOCK"
  | 2 => some "RTAX_MTU"
  | 3 => some "RTAX_WINDOW"
  | 4 => some "RTAX_RTT"
  | 5 => some "RTAX_RTTVAR"
  | 6 => some "RTAX_SSTHRESH"
  | 7 => some "RTAX_CWND"
  | 8 => some "RTAX_ADVMSS"
  | 9 => some "RTAX_REORDERING"
  | 10 => some "RTAX_HOPLIMIT"
  | 11 => some "RTAX_INITCWND"
  | 12 => some "RTAX_FEATURES"
  | 13 => some "RTAX_RTO_MIN"
  | 14 => some "RTAX_INITRWND"
  | 15 => some "RTAX_QUICKACK"
  | 16 => some "RTAX_CC_ALGO"
  | 17 => some "RTAX_FASTOPEN_NO_COOKIE"
  | _ => none

/-- The layout of `RTA_METRICS`: a list of numbered metrics. -/
def metrics : Layout :=
  value "RTA_METRICS" <| named "Invalid RTA_METRICS" <| .attrs none fun k =>
    match metricName k with
    | some name => value name (.number 4)
    | none => .raw

/-- The layout of `RTA_VIA`: a 16-bit family, then an address of that family. -/
def via : Layout :=
  quoting "Invalid RTA_VIA value" <| .custom fun p =>
    if p.length < 2 then .error (.header "RouteViaBuffer" 2 p.length)
    else (address (p.getD 0 0)).check (p.drop 2)

/-- Reads the next hops of a multipath route, back to back: each has an eight-octet header whose
length covers its route attributes, read by `inner`. A length of zero ends the list. -/
def nextHops (inner : Nat → Layout) (buf : List UInt8) : Except DecodeError Unit :=
  if buf.length < 8 then .error (.header "RouteNextHopBuffer" 8 buf.length)
  else
    let len := getU16 buf
    if buf.length < len then
      .error (.other s!"invalid RouteNextHopBuffer: length {buf.length} < {8 + len}")
    else
      match checkAttrs (fun a => (inner a.kind).check a.payload) ((buf.take len).drop 8) with
      | .error e => .error e
      | .ok _ => if _h : buf.length = len ∨ len = 0 then .ok () else nextHops inner (buf.drop len)
termination_by buf.length
decreasing_by
  simp only [List.length_drop]
  omega

/-- The layout of each route attribute in a message of the given family and route type, under
an encapsulation type. Next hops nest route attributes; `depth` bounds the nesting, and a message
of `n` octets cannot nest deeper than `n`. -/
def routeItem (family routeType : UInt8) (encap : Nat) : Nat → Nat → Layout
  | 0, _ => .raw
  | depth + 1, k =>
    match k with
    | 1 | 2 | 5 | 7 => address family
    | 3 => value "RTA_IIF" (.number 4)
    | 4 => value "RTA_OIF" (.number 4)
    | 6 => value "RTA_PRIORITY" (.number 4)
    | 8 => metrics
    | 9 => value "RTA_MULTIPATH" (.custom (nextHops (routeItem family routeType encap depth)))
    | 11 => value "RTA_FLOW" pair
    | 12 => value "RTA_CACHEINFO" (.block "RouteCacheInfoBuffer" 32)
    | 15 => value "RTA_TABLE" (.number 4)
    | 16 => value "RTA_MARK" (.number 4)
    | 17 => value "RTA_MFC_STATS" (.block "RouteMfcStatsBuffer" 24)
    | 18 => via
    | 20 => .number 1
    | 21 => value "RTA_ENCAP_TYPE" (.number 2)
    | 22 => encapLayout encap
    | 23 => quoting "invalid RTA_EXPIRES value" (.number (if routeType = 5 then 8 else 4))
    | 25 => value "RTA_UID" (.number 4)
    | 26 => quoting "invalid RTA_TTL_PROPAGATE" (.number 1)
    | _ => .raw

/-- A route attribute the daemon keeps. -/
inductive RouteItem where
  | dest (a : IpAddress)
  | gateway (a : IpAddress)
  | oif (n : UInt32)
  | priority (n : UInt32)
  | table (n : UInt32)
  | ignored

/-- A route address that has been checked: in families 2 and 10 the IP address of the octets; in
any other family the payload is not an IP address and reads as invalid. -/
def routeAddress (family : UInt8) (p : List UInt8) : IpAddress :=
  if family = 2 || family = 10 then IpAddress.ofOctets p else .invalid

/-- Checks one route attribute and keeps what the daemon reads. -/
def routeAttr (family routeType : UInt8) (encap depth : Nat) (a : Attr) :
    Except DecodeError RouteItem := do
  (routeItem family routeType encap depth a.kind).check a.payload
  let p := a.payload
  pure <| match a.kind with
    | 1 => .dest (routeAddress family p)
    | 5 => .gateway (routeAddress family p)
    | 4 => .oif (getU32 p).toUInt32
    | 6 => .priority (getU32 p).toUInt32
    | 15 => .table (getU32 p).toUInt32
    | _ => .ignored

/-- The encapsulation type a route message declares: that of the first `RTA_ENCAP_TYPE`
attribute holding a 16-bit number. -/
def declaredEncap (attrs : List Attr) : Option Nat :=
  attrs.findSome? fun a => if a.kind = 21 && a.payload.length = 2 then some (getU16 a.payload) else none

/-- Reads the attributes of a route message. The encapsulation type is looked up first: a
framing error met before it is reported before any attribute is read; without one, no
encapsulation (0) is assumed. -/
def routeAttrs (family routeType : UInt8) (buf : List UInt8) :
    Except DecodeError (List RouteItem) := do
  let (items, err) := splitAttrs buf
  let encap ← match declaredEncap items, err with
    | some e, _ => pure e
    | none, some e => throw e
    | none, none => pure 0
  checkAttrs (routeAttr family routeType encap buf.length) buf

/-- Folds the attributes read into a route event; later attributes win. -/
def RouteEvent.withItem (e : RouteEvent) : RouteItem → RouteEvent
  | .dest a => { e with dest := some a }
  | .gateway a => { e with gateway := some a }
  | .oif n => { e with oif := some n }
  | .priority n => { e with priority := some n }
  | .table n => { e with table := n }
  | .ignored => e

/-- Reads the body of a route message (types 24 to 26). A get request may carry only the family
octet, with or without its padding. -/
def decodeRoute (t : Nat) (p : List UInt8) : Except DecodeError KernelEvent :=
  if p.length < 12 then
    if (p.length = 4 || p.length = 1) && t = 26 then .ok (.other t)
    else .error (.header "RouteMessageBuffer" 12 p.length)
  else
    let family := p.getD 0 0
    match routeAttrs family (p.getD 7 0) (p.drop 12) with
    | .error e =>
      .error (.context "invalid route message" (.context "failed to parse route message NLAs" e))
    | .ok items =>
      let base : RouteEvent :=
        { change := if t = 25 then .del else .new, family := familyCode family,
          dstLen := p.getD 1 0, table := (p.getD 4 0).toUInt32, protocol := p.getD 5 0,
          scope := p.getD 6 0, routeType := p.getD 7 0, dest := none, oif := none,
          priority := none, gateway := none }
      if t = 24 || t = 25 then .ok (.route (items.foldl RouteEvent.withItem base))
      else .ok (.other t)

end RouteLease.Wire
