import RouteLease.Wire.Bytes

/-!
# Codec errors

Why a route message could not be built, or a received message could not be read. A decoding
failure is a cause together with the contexts it was found in, outermost first; `message`
renders it as one line, each context followed by `caused by` and its cause.
-/

namespace RouteLease.Wire

/-- Why received octets do not form a message the daemon can read. -/
inductive DecodeError where
  /-- The length field of a message promises more octets than the datagram has left. -/
  | frameOverrun (field remaining : Nat)
  /-- The length field of a message is shorter than the message header itself. -/
  | frameTooShort (field remaining : Nat)
  /-- The body of a control message (error or done) is shorter than its four-octet code. -/
  | controlBody (name : String) (length : Nat)
  /-- A fixed header is shorter than its structure. -/
  | header (name : String) (need got : Nat)
  /-- The message type is not one of the routing family. -/
  | unknownType (type : Nat)
  /-- Fewer octets are left than an attribute header needs. -/
  | attrHeader (remaining : Nat)
  /-- An attribute's length runs past the octets that are left. -/
  | attrOverrun (remaining length : Nat)
  /-- An attribute's length is shorter than its own header; the octets left are given too. -/
  | attrLength (length remaining : Nat)
  /-- A fixed-width number has the wrong number of octets. -/
  | number (expected got : Nat)
  /-- An address attribute does not have the width of the message's family. -/
  | addressWidth (got expected : Nat) (family : String) (payload : List UInt8)
  /-- An address attribute that may hold either family has a width neither has. -/
  | ipWidth (payload : List UInt8)
  /-- A pair of 16-bit numbers (a range or a pair of realms) does not have four octets. -/
  | rangeWidth (payload : List UInt8)
  /-- An address attribute of an address message has a width no address has. -/
  | payloadWidth (name : String) (what : String) (payload : List UInt8)
  /-- Any other cause, in words. -/
  | other (text : String)
  /-- A cause found while reading the named part. -/
  | context (what : String) (cause : DecodeError)
  /-- A cause found while reading the body of a message of the given type. -/
  | body (type : Nat) (cause : DecodeError)
  deriving Inhabited

namespace DecodeError

/-- The one-line text of a decoding failure. -/
def message : DecodeError → String
  | frameOverrun field remaining =>
    s!"invalid netlink buffer: length field says {field} the buffer is {remaining} bytes long"
  | frameTooShort field remaining =>
    s!"invalid netlink buffer: length field says {field} but netlink packets are at least {remaining} bytes"
  | controlBody name length =>
    s!"invalid {name}: length is {length} but {name} are at least 4 bytes"
  | header name need got =>
    s!"Invalid buffer {name}. Expected at least {need} bytes, received {got} bytes"
  | unknownType type => s!"Unknown message type: {type}"
  | attrHeader remaining => s!"buffer has length {remaining}, but an NLA header is 4 bytes"
  | attrOverrun remaining length => s!"buffer has length: {remaining}, but the NLA is {length} bytes"
  | attrLength length remaining =>
    s!"NLA has invalid length: {length} (should be at least {remaining} bytes)"
  | number expected got => s!"Invalid number. Expected {expected} bytes, received {got} bytes"
  | addressWidth got expected family payload =>
    s!"Invalid u8 array length {got}, expecting {expected} for {family} address, got " ++
      showOctets payload
  | ipWidth payload =>
    s!"Invalid u8 array length {payload.length}, expecting 16 for IPv6 address or 4 for IPv4 address, got " ++
      showOctets payload
  | rangeWidth payload =>
    "Invalid rule port range data, expecting 4 u8 array, but got " ++ showOctets payload
  | payloadWidth name what payload =>
    s!"Invalid {name}, got unexpected length of {what}payload " ++ showOctets payload
  | other text => text
  | context what cause => what ++ " caused by " ++ cause.message
  | body type cause => s!"Failed to parse message with type {type}: " ++ cause.message

end DecodeError

/-- Why a route message could not be built or a received message could not be read. -/
inductive CodecError where
  /-- Appending would make the message longer than its capacity. -/
  | bufferOverflow (needed capacity : Nat)
  /-- Received octets could not be read. -/
  | decode (cause : DecodeError)
  /-- A route names an address that cannot go into a route message. -/
  | invalidAddress (text : String)
  deriving Inhabited

/-- The text of a codec error. -/
def CodecError.message : CodecError → String
  | .bufferOverflow needed capacity =>
    s!"message buffer overflow: need {needed} bytes, capacity {capacity}"
  | .decode cause => "malformed netlink message: " ++ cause.message
  | .invalidAddress text => "invalid address for route message: " ++ text

end RouteLease.Wire
