import RouteLease.Proofs.Wire.Encode

/-!
# The octets of a route request

`RouteSpec.layout` writes out the request for a route field by field, the way the kernel reads
it, in the host's little-endian order: the netlink header (length, message type, flags, sequence
number, port id), the route header (`rtmsg`), then the attributes, each as its length, its type
and its payload. Every payload is four or sixteen octets, so no attribute needs padding.

`encodeRoute_eq` is `encodeRoute` in closed form: an invalid destination fails, a unicast route
whose gateway is not of the destination's family fails, and every other route encodes to its
layout. Both failures are invalid addresses, so the capacity check never fails. From it,
`encodeRoute_layout` reads off the exact set of failures, the octets of every success, its length
(at most 84 octets, under the 128 a request may use), and that a blackhole route's octets do not
depend on its output interface or its gateway.
-/

namespace RouteLease.Wire

/-- An attribute whose payload needs no padding: its length (header included), its type and its
payload. -/
def attrOctets (type : Nat) (payload : List UInt8) : List UInt8 :=
  putU16 (4 + payload.length) ++ putU16 type ++ payload

namespace RouteSpec

/-- Octets of the request for a route of family `f`: 28 of headers, the destination, the output
interface of a unicast route, the priority, and the gateway of a unicast route that has one. -/
def wireLength (s : RouteSpec) (f : IpFamily) : Nat :=
  28 + (4 + f.width) + 8 + (if s.kind = .unicast then 8 else 0) +
    (if s.kind = .unicast ∧ s.gateway.isSome then 4 + f.width else 0)

/-- The request for a route of family `f` under sequence number `seq`, field by field. -/
def layout (s : RouteSpec) (f : IpFamily) (seq : UInt32) : List UInt8 :=
  -- netlink header: length, type (`RTM_NEWROUTE` or `RTM_DELROUTE`), flags, sequence, port id
  putU32 (s.wireLength f) ++ putU16 (if s.op = .install then 24 else 25) ++
    putU16 (if s.op = .install then 0x0501 else 0x0001) ++ putU32 seq.toNat ++ putU32 0 ++
  -- route header: family, destination and source prefix lengths, tos, the main table, the static
  -- protocol, universe scope, route type, flags
    [if f = .v4 then 2 else 10, if f = .v4 then 32 else 128, 0, 0, 254, 4, 0,
      if s.kind = .unicast then 1 else 6, 0, 0, 0, 0] ++
  -- attributes: destination, output interface, priority, gateway
    attrOctets 1 s.dest.octets ++
    (if s.kind = .unicast then attrOctets 4 (putU32 s.oif.toNat) else []) ++
    attrOctets 6 (putU32 s.metric.toNat) ++
    (match s.kind, s.gateway with
      | .unicast, some g => attrOctets 5 g.octets
      | _, _ => [])

end RouteSpec

/-! ## Encoded requests are their layout -/

/-- An attribute whose payload fills whole words is written without padding. -/
theorem RouteAttr.encode_eq_attrOctets (a : RouteAttr) (h : a.payload.length % 4 = 0) :
    a.encode = attrOctets a.code a.payload := by
  have hpad : padding (4 + a.payload.length) = [] := by
    simp only [padding, List.replicate_eq_nil_iff, align4]
    omega
  rw [RouteAttr.encode, hpad, List.append_nil, attrOctets]

/-- An address of a family has a multiple of four octets, so its attribute needs no padding. -/
theorem length_octets_mod_four {a : IpAddress} {f : IpFamily} (h : a.family? = some f) :
    a.octets.length % 4 = 0 := by
  rw [IpAddress.length_octets h]
  cases f <;> rfl

/-- The route header of a host route: its family and prefix length, the main table, the static
protocol, universe scope and its kind's route type. -/
theorem RouteHeader.encode_forHost (f : IpFamily) (kind : RouteKind) :
    (RouteHeader.forHost f kind.code).encode =
      [if f = .v4 then 2 else 10, if f = .v4 then 32 else 128, 0, 0, 254, 4, 0,
        if kind = .unicast then 1 else 6, 0, 0, 0, 0] := by
  cases f <;> cases kind <;> rfl

/-- The attributes of a route that encodes, written one after the other. -/
theorem flatMap_attrs_encode {s : RouteSpec} {f : IpFamily} (hs : s.Encodable f) :
    s.attrs.flatMap RouteAttr.encode =
      attrOctets 1 s.dest.octets ++
      (if s.kind = .unicast then attrOctets 4 (putU32 s.oif.toNat) else []) ++
      attrOctets 6 (putU32 s.metric.toNat) ++
      (match s.kind, s.gateway with
        | .unicast, some g => attrOctets 5 g.octets
        | _, _ => []) := by
  obtain ⟨hf, hg⟩ := hs
  have hdst := RouteAttr.encode_eq_attrOctets (.dst s.dest) (length_octets_mod_four hf)
  have hoif := RouteAttr.encode_eq_attrOctets (.oif s.oif) (by simp [RouteAttr.payload, length_putU32])
  have hprio := RouteAttr.encode_eq_attrOctets (.priority s.metric)
    (by simp [RouteAttr.payload, length_putU32])
  obtain ⟨op, kind, dest, oif, metric, gateway⟩ := s
  cases kind with
  | blackhole => simp_all [RouteSpec.attrs, RouteAttr.code, RouteAttr.payload]
  | unicast =>
    cases gateway with
    | none => simp_all [RouteSpec.attrs, RouteAttr.code, RouteAttr.payload]
    | some g =>
      -- the gateway is of the destination's family, so its payload fills whole words too
      have hgf : g.family? = some f := by simpa [IpAddress.isOf] using hg g rfl rfl
      have hgw := RouteAttr.encode_eq_attrOctets (.gateway g) (length_octets_mod_four hgf)
      simp_all [RouteSpec.attrs, RouteAttr.code, RouteAttr.payload]

/-- The length of the request of a route that encodes. -/
theorem routeRequest_length {s : RouteSpec} {f : IpFamily} (hs : s.Encodable f) (seq : UInt32) :
    (routeRequest s f seq).length = s.wireLength f := by
  obtain ⟨hf, hg⟩ := hs
  have hdst := IpAddress.length_octets hf
  obtain ⟨op, kind, dest, oif, metric, gateway⟩ := s
  simp only at hdst
  cases kind with
  | blackhole =>
    simp [RouteRequest.length, routeRequest, RouteSpec.attrs, RouteAttr.size, RouteAttr.payload,
      routeHeaderLength, RouteSpec.wireLength, hdst, align4, length_putU32]
    cases f <;> rfl
  | unicast =>
    cases gateway with
    | none =>
      simp [RouteRequest.length, routeRequest, RouteSpec.attrs, RouteAttr.size,
        RouteAttr.payload, routeHeaderLength, RouteSpec.wireLength, hdst, align4, length_putU32]
      cases f <;> rfl
    | some g =>
      have hgw := IpAddress.length_octets (by simpa [IpAddress.isOf] using hg g rfl rfl)
      simp [RouteRequest.length, routeRequest, RouteSpec.attrs, RouteAttr.size,
        RouteAttr.payload, routeHeaderLength, RouteSpec.wireLength, hdst, hgw, align4,
        length_putU32]
      cases f <;> rfl

/-- The request of a route that encodes is its layout. -/
theorem routeRequest_encode {s : RouteSpec} {f : IpFamily} (hs : s.Encodable f) (seq : UInt32) :
    (routeRequest s f seq).encode = s.layout f seq := by
  have htype : s.op.messageType = if s.op = .install then 24 else 25 := by
    cases s.op <;> rfl
  have hflags : s.op.flags = if s.op = .install then 0x0501 else 0x0001 := by
    cases s.op <;> rfl
  rw [RouteRequest.encode, routeRequest_length hs, RouteSpec.layout]
  simp only [routeRequest, RouteHeader.encode_forHost, flatMap_attrs_encode hs, htype, hflags,
    List.append_assoc]

/-- `encodeRoute` in closed form: an invalid destination fails, a unicast route with a gateway of
another family fails, and every other route encodes to its layout. -/
theorem encodeRoute_eq (s : RouteSpec) (seq : UInt32) :
    encodeRoute s seq = match s.dest.family? with
      | none => .error (.invalidAddress s.dest.display)
      | some f =>
        match s.kind, s.gateway with
        | .unicast, some g =>
          if g.isOf f then .ok (s.layout f seq)
          else .error (.invalidAddress ("gateway " ++ g.display ++ " does not match destination "
            ++ s.dest.display))
        | _, _ => .ok (s.layout f seq) := by
  cases hf : s.dest.family? with
  | none => simp [encodeRoute, hf, throw, throwThe, MonadExceptOf.throw]
  | some f =>
    dsimp only
    -- a route encodes unless it is unicast with a gateway of another family
    have hok : (∀ g, s.kind = .unicast → s.gateway = some g → g.isOf f = true) →
        encodeRoute s seq = .ok (s.layout f seq) := fun hg => by
      rw [encodeRoute_eq_ok ⟨hf, hg⟩, routeRequest_encode ⟨hf, hg⟩]
    obtain ⟨op, kind, dest, oif, metric, gateway⟩ := s
    cases kind with
    | blackhole => exact hok fun g hk => by cases hk
    | unicast =>
      cases gateway with
      | none => exact hok fun g _ hg => by cases hg
      | some g =>
        dsimp only
        split
        · rename_i hgf
          exact hok fun g' _ hg => by cases hg; exact hgf
        · rename_i hgf
          simp_all [encodeRoute, create_eq_ok, push_eq_ok, bind, Except.bind, throw, throwThe,
            MonadExceptOf.throw]

/-! ## What the octets say -/

/-- The layout is as long as its length field says. -/
theorem RouteSpec.length_layout {s : RouteSpec} {f : IpFamily} (hf : s.dest.family? = some f)
    (hg : ∀ g, s.kind = .unicast → s.gateway = some g → g.family? = some f) (seq : UInt32) :
    (s.layout f seq).length = s.wireLength f := by
  have hdst := IpAddress.length_octets hf
  obtain ⟨op, kind, dest, oif, metric, gateway⟩ := s
  simp only at hdst
  cases kind with
  | blackhole =>
    simp [RouteSpec.layout, RouteSpec.wireLength, attrOctets, length_putU16, length_putU32, hdst]
    omega
  | unicast =>
    cases gateway with
    | none =>
      simp [RouteSpec.layout, RouteSpec.wireLength, attrOctets, length_putU16, length_putU32,
        hdst]
      omega
    | some g =>
      have hgw := IpAddress.length_octets (hg g rfl rfl)
      simp [RouteSpec.layout, RouteSpec.wireLength, attrOctets, length_putU16, length_putU32,
        hdst, hgw]
      omega

/-- A route request takes at most 84 octets: the headers, two sixteen-octet addresses and two
numbers. -/
theorem RouteSpec.wireLength_le (s : RouteSpec) (f : IpFamily) : s.wireLength f ≤ 84 := by
  unfold RouteSpec.wireLength
  cases f <;> simp only [IpFamily.width] <;> split <;> split <;> omega

/-- A blackhole route's layout does not read its output interface or its gateway. -/
theorem RouteSpec.layout_blackhole {s : RouteSpec} (hk : s.kind = .blackhole) (oif : UInt32)
    (gateway : Option IpAddress) (f : IpFamily) (seq : UInt32) :
    { s with oif, gateway }.layout f seq = s.layout f seq := by
  obtain ⟨op, kind, dest, oif', metric, gateway'⟩ := s
  subst hk
  simp [RouteSpec.layout, RouteSpec.wireLength]

/-- The exact behaviour of `encodeRoute` on every route and sequence number:

* it fails with an invalid address exactly when the destination is invalid, or the route is
  unicast with a gateway that is invalid or of the other family;
* it never fails otherwise, in particular never with a buffer overflow;
* a route that encodes gives its layout, whose length is the length field, at most 84 octets,
  within the capacity of a request;
* a blackhole route encodes the same whatever its output interface and gateway. -/
theorem encodeRoute_layout (s : RouteSpec) (seq : UInt32) :
    ((∃ text, encodeRoute s seq = .error (.invalidAddress text)) ↔
      s.dest = .invalid ∨
        (s.kind = .unicast ∧ ∃ g, s.gateway = some g ∧ g.family? ≠ s.dest.family?)) ∧
    (∀ err, encodeRoute s seq = .error err → ∃ text, err = .invalidAddress text) ∧
    (∀ f, s.dest.family? = some f →
      (∀ g, s.kind = .unicast → s.gateway = some g → g.family? = some f) →
      encodeRoute s seq = .ok (s.layout f seq) ∧ (s.layout f seq).length = s.wireLength f ∧
        s.wireLength f ≤ 84 ∧ 84 ≤ routeCapacity) ∧
    (s.kind = .blackhole → ∀ oif gateway,
      encodeRoute { s with oif, gateway } seq = encodeRoute s seq) := by
  refine ⟨?_, ?_, fun f hf hg => ⟨?_, RouteSpec.length_layout hf hg seq,
    RouteSpec.wireLength_le s f, by decide⟩, fun hk oif gateway => ?_⟩
  · rw [encodeRoute_eq]
    obtain ⟨op, kind, dest, oif, metric, gateway⟩ := s
    cases dest with
    | invalid => simp [IpAddress.family?]
    | v4 a | v6 a =>
      -- a valid destination fails only on a unicast gateway of another family
      cases kind <;> cases gateway <;> simp [IpAddress.family?, IpAddress.isOf]
      split <;> simp_all
  · intro err herr
    rw [encodeRoute_eq] at herr
    split at herr
    · exact ⟨_, (Except.error.inj herr).symm⟩
    · split at herr
      · split at herr
        · cases herr
        · exact ⟨_, (Except.error.inj herr).symm⟩
      · cases herr
  · rw [encodeRoute_eq, hf]
    dsimp only
    split
    · rename_i g _ hgw
      rw [if_pos (by simpa [IpAddress.isOf] using hg g ‹_› hgw)]
    · rfl
  · rw [encodeRoute_eq, encodeRoute_eq]
    obtain ⟨op, kind, dest, oif', metric, gateway'⟩ := s
    subst hk
    cases dest.family? with
    | none => rfl
    | some f => exact congrArg Except.ok (RouteSpec.layout_blackhole rfl oif gateway f seq)

/-- A unicast install of 192.0.2.1 through interface 3 with gateway 192.0.2.254, under sequence
number 7, encodes to its layout. -/
theorem encodeRoute_layout_unicast_gateway :
    encodeRoute ⟨.install, .unicast, .ofV4 192 0 2 1, 3, 100, some (.ofV4 192 0 2 254)⟩ 7 =
      .ok (RouteSpec.layout ⟨.install, .unicast, .ofV4 192 0 2 1, 3, 100,
        some (.ofV4 192 0 2 254)⟩ .v4 7) :=
  ((encodeRoute_layout _ 7).2.2.1 .v4 rfl fun g _ hg => by cases hg; rfl).1

end RouteLease.Wire
