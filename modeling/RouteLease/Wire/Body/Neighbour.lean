import RouteLease.Wire.Attr

/-!
# The bodies of neighbour and neighbour-table messages

A neighbour message (types 28 to 30) is an entry of the neighbour cache: a twelve-octet header
(family, index, state, flags, type) and attributes (`NDA_*`), the destination taking the width of
the family. A neighbour-table message (types 64, 66 and 67) describes a cache: a four-octet header
and attributes (`NDTA_*`), among them a configuration and statistics structure and a nested list
of parameters (`NDTPA_*`).
-/

namespace RouteLease.Wire

open Layout

/-- The layout of each neighbour attribute (`NDA_*`) in a message of the given family. -/
def neighbourItem (family : UInt8) : Nat → Layout
  | 1 => quoting "invalid NDA_DST value" (address family)
  | 3 => quoting "invalid NDA_CACHEINFO value" (.block "NeighbourCacheInfoBuffer" 16)
  | 4 => quoting "invalid NDA_PROBES value" (.number 4)
  | 5 => .number 2
  | 6 => quoting "invalid NDA_PORT value" (.number 2)
  | 7 => .number 4
  | 8 => .number 4
  | 9 => quoting "invalid NDA_CONTROLLER value" (.number 4)
  | 10 => quoting "invalid NDA_LINK_NETNSID value" (.number 4)
  | 11 => .number 4
  | 12 => quoting "invalid NDA_PROTOCOL value" (.number 1)
  | 13 => .number 4
  | 15 => quoting "invalid NDA_FLAGS_EXT value" (.number 4)
  | _ => .raw

/-- Reads the body of a neighbour message. -/
def checkNeighbour (p : List UInt8) : Except DecodeError Unit :=
  checkBody "invalid neighbour message" "NeighbourMessageBuffer" 12
    (some "failed to parse neighbour message NLAs") (neighbourItem (p.getD 0 0)) p

/-- The name and width of each parameter of a neighbour table (`NDTPA_*`). -/
def tableParameter : Nat → Option (String × Nat)
  | 1 => some ("NDTPA_IFINDEX", 4)
  | 2 => some ("NDTPA_REFCNT", 4)
  | 3 => some ("NDTPA_REACHABLE_TIME", 8)
  | 4 => some ("NDTPA_BASE_REACHABLE_TIME", 8)
  | 5 => some ("NDTPA_RETRANS_TIME", 8)
  | 6 => some ("NDTPA_GC_STALETIME", 8)
  | 7 => some ("NDTPA_DELAY_PROBE_TIME", 8)
  | 8 => some ("NDTPA_QUEUE_LEN", 4)
  | 9 => some ("NDTPA_APP_PROBES", 4)
  | 10 => some ("NDTPA_UCAST_PROBES", 4)
  | 11 => some ("NDTPA_MCAST_PROBES", 4)
  | 12 => some ("NDTPA_ANYCAST_DELAY", 8)
  | 13 => some ("NDTPA_PROXY_DELAY", 8)
  | 14 => some ("NDTPA_PROXY_QLEN", 4)
  | 15 => some ("NDTPA_LOCKTIME", 8)
  | 16 => some ("NDTPA_QUEUE_LENBYTES", 4)
  | 17 => some ("NDTPA_MCAST_REPROBES", 4)
  | 19 => some ("NDTPA_INTERVAL_PROBE_TIME_MS", 8)
  | _ => none

/-- The layout of each neighbour-table attribute (`NDTA_*`). -/
def tableItem : Nat → Layout
  | 1 => value "NDTA_NAME" .text
  | 2 => value "NDTA_THRESH1" (.number 4)
  | 3 => value "NDTA_THRESH2" (.number 4)
  | 4 => value "NDTA_THRESH3" (.number 4)
  | 5 => quoting "invalid NDTA_CONFIG" (.block "NeighbourTableConfigBuffer" 32)
  | 6 => quoting "invalid NDTA_PARMS" <| .headed <| .attrs none fun k =>
      match tableParameter k with
      | some (name, width) => value name (.number width)
      | none => .raw
  | 7 => quoting "invalid NDTA_STATS" (.block "NeighbourTableStatsBuffer" 88)
  | 8 => value "NDTA_GC_INTERVAL" (.number 8)
  | _ => .raw

/-- Reads the body of a neighbour-table message. -/
def checkNeighbourTable (p : List UInt8) : Except DecodeError Unit :=
  checkBody "invalid neighbour table message" "NeighbourTableMessageBuffer" 4
    (some "failed to parse neighbour table message NLAs") tableItem p

end RouteLease.Wire
