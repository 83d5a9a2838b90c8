import RouteLease.Wire.Attr

/-!
# The body of a routing-rule message

A routing-rule message (types 32 to 34) has a twelve-octet header (family, prefix lengths, type of
service, table, action, flags) followed by the rule's attributes (`FRA_*`). The source and
destination hold an address of either family, told apart by width; the flow and the port ranges
are pairs of 16-bit numbers; the rest are numbers and interface names.
-/

namespace RouteLease.Wire

open Layout

/-- The layout of each rule attribute (`FRA_*`). -/
def ruleItem : Nat → Layout
  | 1 => quoting "Invalid FRA_DST value" anyAddress
  | 2 => quoting "Invalid FRA_SRC value" anyAddress
  | 3 => value "FRA_IIFNAME" .text
  | 4 => value "FRA_GOTO" (.number 4)
  | 6 => value "FRA_PRIORITY" (.number 4)
  | 10 => value "FRA_FWMARK" (.number 4)
  | 11 => value "FRA_FLOW" pair
  | 12 => value "FRA_TUN_ID" (.number 8)
  | 13 => value "FRA_SUPPRESS_IFGROUP" (.number 4)
  | 14 => value "FRA_SUPPRESS_PREFIXLEN" (.number 4)
  | 15 => value "FRA_TABLE" (.number 4)
  | 16 => value "FRA_FWMASK" (.number 4)
  | 17 => value "FRA_OIFNAME" .text
  | 19 => value "FRA_L3MDEV" (.number 1)
  | 20 => value "FRA_UID_RANGE" (.exact 8 fun p =>
      .other ("Invalid rule uid range data, expecting 8 u8 array, but got " ++ showOctets p))
  | 21 => value "FRA_PROTOCOL" (.number 1)
  | 22 => value "FRA_IP_PROTO" (.number 1)
  | 23 => value "FRA_SPORT_RANGE" pair
  | 24 => value "FRA_DPORT_RANGE" pair
  | _ => .raw

/-- Reads the body of a routing-rule message. -/
def checkRule (p : List UInt8) : Except DecodeError Unit :=
  checkBody "invalid fib rule message" "RuleMessageBuffer" 12
    (some "failed to parse rule message NLAs") ruleItem p

end RouteLease.Wire
