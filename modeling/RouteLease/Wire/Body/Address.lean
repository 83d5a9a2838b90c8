import RouteLease.Address.Basic
import RouteLease.Wire.Attr
import RouteLease.Wire.Event

/-!
# The body of an address message

An address message (types 20 to 22) has an eight-octet header (family, prefix length, flags,
scope, index) followed by its attributes (`IFA_*`). The address and local attributes hold an
address of either family, told apart by width; broadcast holds an IPv4 address, anycast and
multicast an IPv6 one. The daemon keeps the address, local and broadcast attributes.
-/

namespace RouteLease.Wire

open Layout

/-- The layout of each address attribute (`IFA_*`). -/
def addressItem : Nat → Layout
  | 1 | 2 => .either 4 16 (.payloadWidth "IFA_LOCAL" "")
  | 3 => value "IFA_LABEL" .text
  | 4 => .exact 4 (.payloadWidth "IFA_BROADCAST" "IPv4 address ")
  | 5 => .exact 16 (.payloadWidth "IFA_ANYCAST" "IPv6 address ")
  | 6 => quoting "Invalid IFA_CACHEINFO value" (.block "CacheInfoBuffer" 16)
  | 7 => .exact 16 (.payloadWidth "IFA_MULTICAST" "IPv6 address ")
  | 8 => value "IFA_FLAGS" (.number 4)
  | 9 => value "IFA_RT_PRIORITY" (.number 4)
  | 10 => value "IFA_TARGET_NETNSID" (.number 4)
  | 11 => value "IFA_PROTO" (.number 1)
  | _ => .raw

/-- An address attribute read: its type and address, for the three the daemon keeps. -/
abbrev AddressAttr := Option (Nat × IpAddress)

/-- Checks one address attribute; the address, local and broadcast attributes yield their
address. -/
def addressAttr (a : Attr) : Except DecodeError AddressAttr := do
  (addressItem a.kind).check a.payload
  if a.kind = 1 || a.kind = 2 || a.kind = 4 then pure (some (a.kind, IpAddress.ofOctets a.payload))
  else pure none

/-- The last address given by attributes of type `k`. -/
def lastAddress (k : Nat) (xs : List AddressAttr) : Option IpAddress :=
  xs.foldl (fun acc x => match x with
    | some (k', a) => if k' = k then some a else acc
    | none => acc) none

/-- The family number as events report it: 2 or 10, and 0 for any other family. -/
def familyCode (f : UInt8) : UInt8 :=
  if f = 2 || f = 10 then f else 0

/-- Reads the body of an address message (types 20 to 22). A get request may carry only the
four-octet family header. -/
def decodeAddress (t : Nat) (p : List UInt8) : Except DecodeError KernelEvent :=
  if p.length < 8 then
    if p.length = 4 && t = 22 then .ok (.other t)
    else .error (.header "AddressMessageBuffer" 8 p.length)
  else
    match checkAttrs addressAttr (p.drop 8) with
    | .error e =>
      .error (.context "invalid link message" (.context "failed to parse address message NLAs" e))
    | .ok xs =>
      let event : AddressEvent :=
        { change := if t = 21 then .del else .new, family := familyCode (p.getD 0 0),
          prefixLen := p.getD 1 0, index := (getU32 (p.drop 4)).toUInt32,
          localAddr := lastAddress 2 xs, addr := lastAddress 1 xs, broadcast := lastAddress 4 xs }
      if t = 20 || t = 21 then .ok (.address event) else .ok (.other t)

end RouteLease.Wire
