import RouteLease.Wire.Body.Link
import RouteLease.Wire.Body.Route
import RouteLease.Wire.Body.Neighbour
import RouteLease.Wire.Body.Rule
import RouteLease.Wire.Body.Nsid
import RouteLease.Wire.Body.TrafficControl

/-!
# Reading received datagrams

A datagram holds netlink messages back to back, each starting at a multiple of four.
`parseDatagram` reads them in order and stops after the first message that cannot be read, or when
fewer than sixteen octets (one header) are left. A message's length field must be at least the
header and at most what is left; its body is read according to its type:

* control messages: error (a four-octet code, reported negated), done, no-op and overrun;
* link, address and route messages of the routing family, which become events;
* the other messages of the routing family (neighbours, rules, traffic control, ...), which are
  read in full and reported by type.
-/

namespace RouteLease.Wire

/-- Reads the body of a message of the routing family by its type. -/
def decodeRouting (t : Nat) (p : List UInt8) : Except DecodeError KernelEvent :=
  let checked (check : List UInt8 → Except DecodeError Unit) : Except DecodeError KernelEvent :=
    (check p).map fun _ => .other t
  if 16 ≤ t && t ≤ 19 then decodeLink t p
  else if 20 ≤ t && t ≤ 22 then decodeAddress t p
  else if 24 ≤ t && t ≤ 26 then decodeRoute t p
  else if 28 ≤ t && t ≤ 30 then checked checkNeighbour
  else if 32 ≤ t && t ≤ 34 then checked checkRule
  else if (36 ≤ t && t ≤ 46 && t % 4 != 3) || (100 ≤ t && t ≤ 102) then checked checkTc
  else if 48 ≤ t && t ≤ 50 then checked checkTcAction
  else if t = 52 then checked checkPrefix
  else if t = 64 || t = 66 || t = 67 then checked checkNeighbourTable
  else if 88 ≤ t && t ≤ 90 then checked checkNsid
  else .error (.unknownType t)

/-! ## Messages and datagrams -/

/-- The errno of an error report: the negated code, wrapping at the 32-bit boundary. -/
def errnoOfCode (code : Int) : Int :=
  if code = -Int.pow 2 31 then code else -code

/-- Reads the body of a message by its type: the four control types, else the routing family. -/
def decodeBody (t : Nat) (p : List UInt8) : Except DecodeError KernelEvent :=
  match t with
  | 1 => .ok (.other 1)
  | 2 =>
    if p.length < 4 then
      .error (.context "failed parsing NLMSG_ERROR"
        (.context "invalid ErrorBuffer length" (.controlBody "ErrorBuffer" p.length)))
    else .ok (.error (errnoOfCode (getI32 p)))
  | 3 =>
    if p.isEmpty || p.length ≥ 4 then .ok .done
    else .error (.context "failed parsing NLMSG_DONE"
      (.context "invalid DoneBuffer length" (.controlBody "DoneBuffer" p.length)))
  | 4 => .ok (.other 4)
  | _ => (decodeRouting t p).mapError (.body t)

/-- Octets of a netlink message header. -/
def headerLength : Nat := 16

/-- Reads the message at the start of the octets: its event and its length field, which is at
least a header. -/
def decodeMessage (buf : List UInt8) : Except DecodeError (KernelEvent × { n : Nat // 16 ≤ n }) :=
  let field := getU32 buf
  let framing (e : DecodeError) : DecodeError :=
    .context "failed deserializing NetlinkMessage" (.context "invalid netlink buffer length" e)
  if buf.length < field then .error (framing (.frameOverrun field buf.length))
  else if h : field < headerLength then .error (framing (.frameTooShort field buf.length))
  else
    match decodeBody (getU16 (buf.drop 4)) ((buf.take field).drop headerLength) with
    | .ok ev => .ok (ev, ⟨field, by unfold headerLength at h; omega⟩)
    | .error e => .error e

/-- What reading the message at the start of the octets gives: what it says, and the octets after
it and its padding to a multiple of four, or `none` when it cannot be read and reading stops. -/
def afterMessage (buf : List UInt8) :
    Except DecodeError (KernelEvent × { n : Nat // 16 ≤ n }) →
      Except CodecError KernelEvent × Option (List UInt8)
  | .error e => (.error (.decode e), none)
  | .ok (ev, len) => (.ok ev, some (buf.drop (align4 len.1)))

/-- Reads at most `fuel` messages of a datagram. Reading stops after the first message that
cannot be read, and when fewer octets than a header are left. -/
def parseFrom : Nat → List UInt8 → List (Except CodecError KernelEvent)
  | 0, _ => []
  | fuel + 1, buf =>
    if buf.length < headerLength then []
    else
      let next := afterMessage buf (decodeMessage buf)
      next.1 :: (next.2.map (parseFrom fuel)).getD []

/-- The messages of a datagram, in order. Every message read takes at least a header's sixteen
octets, so the datagram's length bounds the number of steps. -/
def parseDatagram (buf : List UInt8) : List (Except CodecError KernelEvent) :=
  parseFrom buf.length buf

end RouteLease.Wire
