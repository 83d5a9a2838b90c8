import RouteLease.Wire.Attr

/-!
# The bodies of namespace-identifier and prefix messages

A namespace-identifier message (types 88 to 90) has a four-octet header and attributes
(`NETNSA_*`) that are 32-bit identifiers, descriptors and process numbers. A prefix message
(type 52) announces an IPv6 prefix: a twelve-octet header and attributes (`PREFIX_*`), the
address of sixteen octets and the lifetimes of eight.
-/

namespace RouteLease.Wire

open Layout

/-- The layout of each namespace-identifier attribute (`NETNSA_*`). -/
def nsidItem : Nat → Layout
  | 1 => named "invalid NETNSA_NSID" (.number 4)
  | 2 => named "invalid NETNSA_PID" (.number 4)
  | 3 => named "invalid NETNSA_FD" (.number 4)
  | 4 => named "invalid NETNSA_TARGET_NSID" (.number 4)
  | 5 => named "invalid NETNSA_CURRENT_NSID" (.number 4)
  | _ => .raw

/-- Reads the body of a namespace-identifier message. -/
def checkNsid (p : List UInt8) : Except DecodeError Unit :=
  checkBody "invalid nsid message" "NsidMessageBuffer" 4
    (some "failed to parse nsid message NLAs") nsidItem p

/-- The layout of each prefix attribute (`PREFIX_*`). -/
def prefixItem : Nat → Layout
  | 1 => .exact 16 fun p =>
      .other ("Invalid PREFIX_ADDRESS, unexpected payload length: " ++ showOctets p)
  | 2 => .block "CacheInfoBuffer" 8
  | _ => .raw

/-- Reads the body of a prefix message. -/
def checkPrefix (p : List UInt8) : Except DecodeError Unit :=
  checkBody "invalid prefix message" "PrefixMessageBuffer" 12
    (some "failed to parse prefix message attributes") prefixItem p

end RouteLease.Wire
