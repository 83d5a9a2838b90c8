import Mathlib
import RouteLease.Proofs.Wire.Encode
import RouteLease.Wire.Decode

/-!
# Route requests read back

A route request that the daemon encodes is read back by its own datagram reader as exactly one
route notification, which carries the route's fields (`parseDatagram_encodeRoute`). The argument
follows the layers of the message:

* the little-endian fields read back what was written (`getU16_putU16_append`);
* every attribute is framed by its own length, so the attribute reader cuts the encoded attribute
  list back into the attributes, with no framing error (`splitAttrs_flatMap_encode`);
* the length field of the request is the length of its octets, so the message reader takes the
  whole request as one message and nothing is left (`parseDatagram_encode`);
* each attribute passes the check of its type, an address because it has the width of the
  header's family (`routeAttr_toAttr`), and no attribute declares an encapsulation;
* the route header's octets become the event's header fields, and the attributes fill in the
  destination, output interface, priority and gateway (`RouteSpec.foldl_withItem`).

`RouteSpec.event` states what the notification of a route says, field by field.
-/

namespace RouteLease

/-- A valid address is read back from its own octets. -/
theorem IpAddress.ofOctets_octets {a : IpAddress} {f : IpFamily} (h : a.family? = some f) :
    IpAddress.ofOctets a.octets = a := by
  cases a with
  | invalid => simp [IpAddress.family?] at h
  | v4 o => simp [IpAddress.ofOctets, IpAddress.octets, Vector.toList]
  | v6 o => simp [IpAddress.ofOctets, IpAddress.octets, Vector.toList]

namespace Wire

/-! ## Little-endian fields -/

/-- A 16-bit field written before any octets is read back as written. -/
theorem getU16_putU16_append {v : Nat} (hv : v < 65536) (rest : List UInt8) :
    getU16 (putU16 v ++ rest) = v := by
  simp [getU16, putU16]
  omega

/-- A 32-bit field written before any octets is read back as written. -/
theorem getU32_putU32_append {v : Nat} (hv : v < 2 ^ 32) (rest : List UInt8) :
    getU32 (putU32 v ++ rest) = v := by
  simp [getU32, putU32]
  omega

/-- A 32-bit word written and read back is the same word. -/
theorem toUInt32_getU32_putU32 (n : UInt32) : (getU32 (putU32 n.toNat)).toUInt32 = n := by
  have h : getU32 (putU32 n.toNat) = n.toNat := by
    simpa using getU32_putU32_append n.toNat_lt []
  rw [h]
  simp

/-! ## Attribute lists -/

/-- The attribute that the reader cuts from an encoded route attribute. -/
def RouteAttr.toAttr (a : RouteAttr) : Attr :=
  ⟨a.code, a.payload⟩

/-- No attribute the daemon writes carries more than sixteen octets, an IPv6 address. -/
theorem RouteAttr.length_payload_le (a : RouteAttr) : a.payload.length ≤ 16 := by
  cases a with
  | dst x | gateway x => cases x <;> simp [RouteAttr.payload, IpAddress.octets]
  | _ => simp [RouteAttr.payload, length_putU32]

/-- An encoded attribute takes its size, padding included. -/
@[simp]
theorem RouteAttr.length_encode (a : RouteAttr) : a.encode.length = a.size := by
  have := le_align4 (4 + a.payload.length)
  simp [RouteAttr.encode, RouteAttr.size, padding, length_putU16]
  omega

/-- Every attribute takes at least its four-octet header. -/
theorem RouteAttr.four_le_size (a : RouteAttr) : 4 ≤ a.size :=
  Nat.le_trans (Nat.le_add_right 4 _) (le_align4 _)

/-- An encoded attribute list is as long as the sum of its attributes' sizes. -/
theorem length_flatMap_encode (as : List RouteAttr) :
    (as.flatMap RouteAttr.encode).length = (as.map RouteAttr.size).sum := by
  simp [List.length_flatMap]

/-- The length of a request is the headers' length and the sum of its attributes' sizes. -/
theorem RouteRequest.length_eq_sum (m : RouteRequest) :
    m.length = routeHeaderLength + (m.attrs.map RouteAttr.size).sum :=
  rfl

/-- The reader cuts nothing from no octets, and reports no framing error. -/
theorem splitAttrs_nil : splitAttrs [] = ([], none) := by
  rw [splitAttrs, dif_pos List.length_nil]

/-- The reader cuts an encoded attribute off the front: its length field covers the header and
the payload, its type has no flag bits, and the padding brings the rest to the next attribute. -/
theorem splitAttrs_encode_append (a : RouteAttr) (rest : List UInt8) :
    splitAttrs (a.encode ++ rest) = (a.toAttr :: (splitAttrs rest).1, (splitAttrs rest).2) := by
  have hp := a.length_payload_le
  have hl := a.length_encode
  have hc : a.code < 0x4000 := by cases a <;> simp [RouteAttr.code]
  have hlen : getU16 (a.encode ++ rest) = 4 + a.payload.length := by
    simp only [RouteAttr.encode, List.append_assoc]
    rw [getU16_putU16_append (by omega)]
  have hkind : getU16 ((a.encode ++ rest).drop 2) = a.code := by
    simp only [RouteAttr.encode, List.append_assoc]
    rw [List.drop_left' (length_putU16 _), getU16_putU16_append (by omega)]
  have hpay : ((a.encode ++ rest).take (4 + a.payload.length)).drop 4 = a.payload := by
    have hd : (a.encode ++ rest).drop 4 =
        a.payload ++ (padding (4 + a.payload.length) ++ rest) := by
      simp [RouteAttr.encode, putU16]
    rw [List.drop_take, Nat.add_sub_cancel_left, hd, List.take_left' rfl]
  have hdrop : (a.encode ++ rest).drop (align4 (4 + a.payload.length)) = rest :=
    List.drop_left' hl
  have hfits : 4 + a.payload.length ≤ (a.encode ++ rest).length := by
    have := le_align4 (4 + a.payload.length)
    rw [List.length_append, hl, RouteAttr.size]
    omega
  rw [splitAttrs, dif_neg (by omega), if_neg (by omega), hlen, if_neg (by omega),
    dif_neg (by omega), hdrop, hkind, hpay, Nat.mod_eq_of_lt hc]
  rfl

/-- An encoded attribute list is cut back into its attributes, with no framing error. -/
theorem splitAttrs_flatMap_encode (as : List RouteAttr) :
    splitAttrs (as.flatMap RouteAttr.encode) = (as.map RouteAttr.toAttr, none) := by
  induction as with
  | nil => exact splitAttrs_nil
  | cons a as ih => rw [List.flatMap_cons, splitAttrs_encode_append, ih, List.map_cons]

/-! ## Messages -/

/-- An encoded request is as long as the length it declares. -/
theorem RouteRequest.length_encode (m : RouteRequest) : m.encode.length = m.length := by
  simp only [RouteRequest.encode, RouteRequest.length_eq_sum, RouteHeader.encode, List.length_append,
    List.length_cons, List.length_nil, length_putU32, length_putU16, length_flatMap_encode,
    routeHeaderLength]

/-- A message whose length field is the length of the octets, with a body that reads, is read
whole. -/
theorem decodeMessage_eq {buf : List UInt8} {ev : KernelEvent} (hfield : getU32 buf = buf.length)
    (h16 : headerLength ≤ buf.length)
    (hbody : decodeBody (getU16 (buf.drop 4)) (buf.drop headerLength) = .ok ev) :
    decodeMessage buf = .ok (ev, ⟨buf.length, h16⟩) := by
  unfold decodeMessage
  simp only [hfield, Nat.lt_irrefl, if_false, List.take_length]
  rw [dif_neg (by omega), hbody]

/-- Parsing no octets gives no messages, whatever the fuel. -/
theorem parseFrom_nil (fuel : Nat) : parseFrom fuel [] = [] := by
  cases fuel <;> rfl

/-- A request whose body reads is a datagram of that one message. -/
theorem parseDatagram_encode {m : RouteRequest} (hm : m.length < 2 ^ 32) {ev : KernelEvent}
    (h : decodeBody m.op.messageType (m.header.encode ++ m.attrs.flatMap RouteAttr.encode) =
      .ok ev) :
    parseDatagram m.encode = [.ok ev] := by
  have hlen := m.length_encode
  have h28 : 28 ≤ m.length := Nat.le_add_right _ _
  have hfield : getU32 m.encode = m.encode.length := by
    rw [hlen]
    simp only [RouteRequest.encode, List.append_assoc]
    rw [getU32_putU32_append hm]
  have htype : getU16 (m.encode.drop 4) = m.op.messageType := by
    have : m.op.messageType < 65536 := by cases m.op <;> simp [RouteOp.messageType]
    simp only [RouteRequest.encode, List.append_assoc]
    rw [List.drop_left' (length_putU32 _), getU16_putU16_append this]
  have hbody :
      m.encode.drop headerLength = m.header.encode ++ m.attrs.flatMap RouteAttr.encode := by
    simp [RouteRequest.encode, headerLength, putU32, putU16]
  have h16 : headerLength ≤ m.encode.length := by simp only [headerLength]; omega
  have hmsg := decodeMessage_eq hfield h16 (by rw [htype, hbody, h])
  -- the message takes all the octets, so the reader stops after it
  obtain ⟨k, hk⟩ : ∃ k, m.encode.length = k + 1 := ⟨m.length - 1, by omega⟩
  rw [parseDatagram, hk, parseFrom, if_neg (by omega), hmsg, afterMessage,
    List.drop_eq_nil_of_le (le_align4 _)]
  simp [parseFrom_nil]

/-! ## Route bodies -/

/-- What the reader keeps of an attribute the daemon writes. -/
def RouteAttr.item : RouteAttr → RouteItem
  | .dst a => .dest a
  | .gateway a => .gateway a
  | .oif n => .oif n
  | .priority n => .priority n
  | .table n => .table n

/-- An attribute fits a message of family `f`: the addresses it carries are of that family. -/
def RouteAttr.Fits (f : IpFamily) : RouteAttr → Prop
  | .dst a | .gateway a => a.family? = some f
  | _ => True

/-- An address of a family passes the address check of that family's code. -/
theorem check_address {a : IpAddress} {f : IpFamily} (h : a.family? = some f) :
    (Layout.address f.code).check a.octets = .ok () := by
  have hl := IpAddress.length_octets h
  cases f <;> simp_all [Layout.address, Layout.check, IpFamily.code, IpFamily.width]

/-- Four octets written from a 32-bit word pass the check of a number field. -/
theorem check_number (name : String) (n : UInt32) :
    (Layout.value name (.number 4)).check (putU32 n.toNat) = .ok () := by
  simp [Layout.value, Layout.check, readNumber, putU32, Except.map, Except.mapError]

/-- Every attribute the daemon writes passes the check of its type in a message of its family. -/
theorem check_routeItem {a : RouteAttr} {f : IpFamily} (h : a.Fits f) (routeType : UInt8)
    (encap depth : Nat) :
    (routeItem f.code routeType encap (depth + 1) a.code).check a.payload = .ok () := by
  cases a with
  | dst x | gateway x => exact check_address h
  | oif n | priority n | table n => exact check_number _ n

/-- An address of a family is read back from its octets under that family's code. -/
theorem routeAddress_octets {a : IpAddress} {f : IpFamily} (h : a.family? = some f) :
    routeAddress f.code a.octets = a := by
  have hf : (f.code = 2 || f.code = 10) = true := by cases f <;> rfl
  rw [routeAddress, if_pos hf, IpAddress.ofOctets_octets h]

/-- An attribute the daemon writes is read back as what it carries. -/
theorem routeAttr_toAttr {a : RouteAttr} {f : IpFamily} (h : a.Fits f) (routeType : UInt8)
    (depth : Nat) : routeAttr f.code routeType 0 (depth + 1) a.toAttr = .ok a.item := by
  simp only [routeAttr, RouteAttr.toAttr]
  rw [check_routeItem h]
  cases a <;>
    simp_all [RouteAttr.code, RouteAttr.payload, RouteAttr.item, RouteAttr.Fits, bind,
      Except.bind, pure, Except.pure, routeAddress_octets, toUInt32_getU32_putU32]

/-- No attribute the daemon writes declares an encapsulation type. -/
theorem declaredEncap_map_toAttr (as : List RouteAttr) :
    declaredEncap (as.map RouteAttr.toAttr) = none := by
  induction as with
  | nil => rfl
  | cons a as ih =>
    have : a.code ≠ 21 := by cases a <;> simp [RouteAttr.code]
    simp [declaredEncap, RouteAttr.toAttr, this] at ih ⊢
    exact ih

/-- Every attribute of a family's list is read back as what it carries, in order. -/
theorem mapM_routeAttr {f : IpFamily} {as : List RouteAttr} (h : ∀ a ∈ as, a.Fits f)
    (routeType : UInt8) (depth : Nat) :
    (as.map RouteAttr.toAttr).mapM (routeAttr f.code routeType 0 (depth + 1)) =
      .ok (as.map RouteAttr.item) := by
  induction as with
  | nil => rfl
  | cons a as ih =>
    rw [List.map_cons, List.mapM_cons, routeAttr_toAttr (h a List.mem_cons_self),
      ih fun b hb => h b (List.mem_cons_of_mem a hb)]
    rfl

/-- A nonempty attribute list of a family reads back as the items it carries. -/
theorem routeAttrs_flatMap_encode {f : IpFamily} {as : List RouteAttr} (h : ∀ a ∈ as, a.Fits f)
    (hne : as ≠ []) (routeType : UInt8) :
    routeAttrs f.code routeType (as.flatMap RouteAttr.encode) = .ok (as.map RouteAttr.item) := by
  -- the octets are not empty, which is what opens the nesting bound of `routeItem`
  obtain ⟨d, hd⟩ : ∃ d, (as.flatMap RouteAttr.encode).length = d + 1 := by
    obtain ⟨a, as', rfl⟩ := List.exists_cons_of_ne_nil hne
    have := a.four_le_size
    rw [length_flatMap_encode, List.map_cons, List.sum_cons]
    exact ⟨_, (Nat.succ_pred_eq_of_pos (by omega)).symm⟩
  simp only [routeAttrs, splitAttrs_flatMap_encode, declaredEncap_map_toAttr, checkAttrs, hd,
    pure_bind, mapM_routeAttr h]

/-- The body of a route operation's message is read as a route message, its errors tagged with the
message type. -/
theorem decodeBody_messageType (op : RouteOp) (p : List UInt8) :
    decodeBody op.messageType p =
      (decodeRoute op.messageType p).mapError (.body op.messageType) := by
  cases op <;> rfl

/-- A route message of a new or deleted route whose attributes read: its header's octets become
the event's header fields, and the attributes are folded in. -/
theorem decodeRoute_encode {t : Nat} (h : RouteHeader) (rest : List UInt8) {items : List RouteItem}
    (hr : routeAttrs h.family h.kind rest = .ok items) (ht : t = 24 ∨ t = 25) :
    decodeRoute t (h.encode ++ rest) = .ok (.route (items.foldl RouteEvent.withItem
      { change := if t = 25 then .del else .new, family := familyCode h.family, dstLen := h.dstLen,
        table := h.table.toUInt32, protocol := h.protocol, scope := h.scope, routeType := h.kind,
        dest := none, oif := none, priority := none, gateway := none })) := by
  have hl : ¬ (h.encode ++ rest).length < 12 := by
    simp [RouteHeader.encode, length_putU32]
  have hd : (h.encode ++ rest).drop 12 = rest :=
    List.drop_left' (by simp [RouteHeader.encode, length_putU32])
  have ht' : (t = 24 || t = 25) = true := by simpa using ht
  rw [decodeRoute, if_neg hl]
  simp only [hd]
  simp [RouteHeader.encode, hr, ht']

/-! ## The notification of a route -/

/-- The change a route operation makes: installing makes a new route, withdrawing deletes one. -/
def RouteOp.change : RouteOp → Change
  | .install => .new
  | .withdraw => .del

/-- The notification that a route of family `f` reads as: its operation's change, the family and
the host prefix length of `f`, the main table, the static protocol, universe scope, the route
type of its kind, its destination and priority, and, for a unicast route only, its output
interface and gateway. -/
def RouteSpec.event (s : RouteSpec) (f : IpFamily) : RouteEvent where
  change := s.op.change
  family := f.code
  dstLen := f.hostPrefixLen.toUInt8
  table := 254
  protocol := 4
  scope := 0
  routeType := s.kind.code
  dest := some s.dest
  oif := if s.kind = .unicast then some s.oif else none
  priority := some s.metric
  gateway := if s.kind = .unicast then s.gateway else none

/-- The attributes of a route that encodes under a family all fit that family. -/
theorem RouteSpec.fits_attrs {s : RouteSpec} {f : IpFamily} (hs : s.Encodable f) :
    ∀ a ∈ s.attrs, a.Fits f := by
  obtain ⟨hd, hg⟩ := hs
  intro a ha
  obtain ⟨op, kind, dest, oif, metric, gateway⟩ := s
  cases kind <;> rcases gateway with _ | g <;>
    simp [RouteSpec.attrs] at ha <;> rcases ha with rfl | rfl | rfl | rfl <;>
    simp_all [RouteAttr.Fits, IpAddress.isOf]

/-- A route carries at most four attributes. -/
theorem RouteSpec.length_attrs_le (s : RouteSpec) : s.attrs.length ≤ 4 := by
  obtain ⟨op, kind, dest, oif, metric, gateway⟩ := s
  cases kind <;> rcases gateway with _ | g <;> simp [RouteSpec.attrs]

/-- The family code of a family is read back as itself. -/
@[simp]
theorem familyCode_code (f : IpFamily) : familyCode f.code = f.code := by
  cases f <;> rfl

/-- Folding a route's attributes into its header's event gives the route's notification. -/
theorem RouteSpec.foldl_withItem (s : RouteSpec) (f : IpFamily) :
    (s.attrs.map RouteAttr.item).foldl RouteEvent.withItem
      { change := s.op.change, family := f.code, dstLen := f.hostPrefixLen.toUInt8, table := 254,
        protocol := 4, scope := 0, routeType := s.kind.code, dest := none, oif := none,
        priority := none, gateway := none } = s.event f := by
  obtain ⟨op, kind, dest, oif, metric, gateway⟩ := s
  cases kind <;> rcases gateway with _ | g <;>
    simp [RouteSpec.attrs, RouteAttr.item, RouteEvent.withItem, RouteSpec.event]

/-- The request of a route of family `f` is read back as the one notification of that route. -/
theorem parseDatagram_routeRequest {s : RouteSpec} {f : IpFamily} (hs : s.Encodable f)
    (seq : UInt32) : parseDatagram (routeRequest s f seq).encode = [.ok (.route (s.event f))] := by
  have hlen : (routeRequest s f seq).length < 2 ^ 32 := by
    have := (routeRequest s f seq).length_le
    have := s.length_attrs_le
    simp only [routeRequest] at *
    omega
  have hattrs := routeAttrs_flatMap_encode (RouteSpec.fits_attrs hs)
    (by simp [RouteSpec.attrs]) s.kind.code
  have hop : s.op.messageType = 24 ∨ s.op.messageType = 25 := by
    cases s.op <;> simp [RouteOp.messageType]
  have hchange : (if s.op.messageType = 25 then Change.del else .new) = s.op.change := by
    cases s.op <;> rfl
  have hbody : decodeRoute s.op.messageType ((RouteHeader.forHost f s.kind.code).encode ++
      s.attrs.flatMap RouteAttr.encode) = .ok (.route (s.event f)) := by
    rw [decodeRoute_encode (RouteHeader.forHost f s.kind.code) _ hattrs hop,
      ← RouteSpec.foldl_withItem s f]
    simp only [RouteHeader.forHost, familyCode_code, hchange]
    rfl
  apply parseDatagram_encode hlen
  simp only [routeRequest]
  rw [decodeBody_messageType, hbody]
  rfl

/-- Every route with a valid destination and, for unicast, a gateway of the destination's family
or none, encodes, and its octets are read back as exactly one route notification with the route's
fields. -/
theorem parseDatagram_encodeRoute {s : RouteSpec} {f : IpFamily} (hs : s.Encodable f)
    (seq : UInt32) :
    ∃ bytes, encodeRoute s seq = .ok bytes ∧ parseDatagram bytes = [.ok (.route (s.event f))] :=
  ⟨_, encodeRoute_eq_ok hs seq, parseDatagram_routeRequest hs seq⟩

/-- A unicast route to 192.0.2.1 through gateway 10.0.0.1 is read back as its notification. -/
theorem parseDatagram_encodeRoute_gateway :
    RouteSpec.Encodable ⟨.install, .unicast, .ofV4 192 0 2 1, 3, 100, some (.ofV4 10 0 0 1)⟩ .v4 ∧
    ∃ bytes, encodeRoute ⟨.install, .unicast, .ofV4 192 0 2 1, 3, 100, some (.ofV4 10 0 0 1)⟩ 7 =
        .ok bytes ∧
      parseDatagram bytes = [.ok (.route (RouteSpec.event
        ⟨.install, .unicast, .ofV4 192 0 2 1, 3, 100, some (.ofV4 10 0 0 1)⟩ .v4))] :=
  have hs : RouteSpec.Encodable
      ⟨.install, .unicast, .ofV4 192 0 2 1, 3, 100, some (.ofV4 10 0 0 1)⟩ .v4 :=
    ⟨by decide, by rintro g - ⟨⟩; decide⟩
  ⟨hs, parseDatagram_encodeRoute hs 7⟩

end Wire

end RouteLease
