import RouteLease.Wire.Route

/-!
# Encoding route requests

What `encodeRoute` produces, and when. A route encodes exactly when its destination is valid and,
for a unicast route, its gateway (if any) is of the destination's family
(`encodeRoute_eq_ok_iff`). The capacity check never fails on the way: an attribute takes at most
twenty octets, so the headers and four attributes stay under the 128 octets a request may use.
The request then carries the destination, the output interface (unicast only), the priority and
the gateway, in that order (`RouteSpec.attrs`).

The encoding tells its route apart: the message type, the route type and the destination sit at
fixed places of the octets, so two routes with one encoding agree on operation, kind and
destination (`encodeRoute_determines`). That is what makes "a withdrawal of `d`" a property of
the octets a sink receives (`IsRouteMessage`).

A stream of requests is `Numbered` when each is the encoding of its route under the next value
of the wrapping sequence counter.
-/

namespace RouteLease

namespace IpAddress

/-- A valid address has as many octets as its family says. -/
theorem length_octets {a : IpAddress} {f : IpFamily} (h : a.family? = some f) :
    a.octets.length = f.width := by
  cases a <;> cases f <;> simp_all [family?, octets, IpFamily.width]

/-- The family and the octets of an address determine it. -/
theorem eq_of_family?_eq_of_octets_eq {a b : IpAddress} (hf : a.family? = b.family?)
    (ho : a.octets = b.octets) : a = b := by
  cases a <;> cases b <;> simp_all [family?, octets, Vector.toList_inj]

end IpAddress

namespace Wire

/-- What a route of family `f` needs to be encoded: its destination is of the family, and a
unicast route's gateway, if it has one, too. -/
def RouteSpec.Encodable (s : RouteSpec) (f : IpFamily) : Prop :=
  s.dest.family? = some f ∧ ∀ g, s.kind = .unicast → s.gateway = some g → g.isOf f = true

/-- The attributes of a route's request, in the order they are appended. -/
def RouteSpec.attrs (s : RouteSpec) : List RouteAttr :=
  .dst s.dest :: ((if s.kind = .unicast then [.oif s.oif] else []) ++ .priority s.metric ::
    match s.kind, s.gateway with
    | .unicast, some g => [.gateway g]
    | _, _ => [])

/-- The request that encodes a route of family `f` under a sequence number. -/
def routeRequest (s : RouteSpec) (f : IpFamily) (seq : UInt32) : RouteRequest :=
  { op := s.op, header := RouteHeader.forHost f s.kind.code, seq, capacity := routeCapacity,
    attrs := s.attrs }

/-! ## The capacity is never reached -/

/-- An attribute takes at most twenty octets: a sixteen-octet address and its header. -/
theorem RouteAttr.size_le (a : RouteAttr) : a.size ≤ 20 := by
  cases a with
  | dst x | gateway x =>
    cases x <;> simp [RouteAttr.size, RouteAttr.payload, IpAddress.octets, align4]
  | _ => simp [RouteAttr.size, RouteAttr.payload, length_putU32, align4]

/-- A request takes its 28 octets of headers and at most 20 octets per attribute. -/
theorem RouteRequest.length_le (m : RouteRequest) : m.length ≤ 28 + 20 * m.attrs.length := by
  unfold RouteRequest.length routeHeaderLength
  suffices h : ∀ l : List RouteAttr, (l.map RouteAttr.size).foldr (· + ·) 0 ≤ 20 * l.length by
    have := h m.attrs
    omega
  intro l
  induction l with
  | nil => simp
  | cons a l ih =>
    have := a.size_le
    simp only [List.map_cons, List.foldr_cons, List.length_cons]
    omega

/-- A request of the daemon's capacity is created empty. -/
theorem create_eq_ok (op : RouteOp) (h : RouteHeader) (seq : UInt32) :
    RouteRequest.create op h seq routeCapacity =
      .ok { op, header := h, seq, capacity := routeCapacity, attrs := [] } := rfl

/-- A request of the daemon's capacity with at most four attributes takes one more. -/
theorem push_eq_ok {m : RouteRequest} (hc : m.capacity = routeCapacity)
    (hl : m.attrs.length ≤ 4) (a : RouteAttr) :
    m.push a = .ok { m with attrs := m.attrs ++ [a] } := by
  have := m.length_le
  have := a.size_le
  unfold RouteRequest.push
  rw [if_neg (by rw [hc, routeCapacity]; omega)]

/-! ## When a route encodes -/

/-- A route that encodes under a family is written as the request of that family. -/
theorem encodeRoute_eq_ok {s : RouteSpec} {f : IpFamily} (hs : s.Encodable f) (seq : UInt32) :
    encodeRoute s seq = .ok (routeRequest s f seq).encode := by
  obtain ⟨hf, hg⟩ := hs
  obtain ⟨op, kind, dest, oif, metric, gateway⟩ := s
  -- every append fits, so only the route's kind and gateway shape the request
  cases kind <;> rcases gateway with _ | g <;>
    simp_all [encodeRoute, create_eq_ok, push_eq_ok, bind, Except.bind, pure, Except.pure,
      routeRequest, RouteSpec.attrs]

/-- A route that is written encodes under some family. -/
theorem encodable_of_encodeRoute_eq_ok {s : RouteSpec} {seq : UInt32} {b : List UInt8}
    (h : encodeRoute s seq = .ok b) : ∃ f, s.Encodable f := by
  obtain ⟨op, kind, dest, oif, metric, gateway⟩ := s
  cases hf : dest.family? with
  | none => simp [encodeRoute, hf, throw, throwThe, MonadExceptOf.throw] at h
  | some f =>
    refine ⟨f, hf, fun g hk hg => ?_⟩
    subst hk hg
    -- a gateway of the other family is the one error left
    cases hc : g.isOf f
    · simp_all [encodeRoute, create_eq_ok, push_eq_ok, bind, Except.bind, throw, throwThe,
        MonadExceptOf.throw]
    · rfl

/-- A route is written exactly when it encodes under some family, as the request of that family. -/
theorem encodeRoute_eq_ok_iff {s : RouteSpec} {seq : UInt32} {b : List UInt8} :
    encodeRoute s seq = .ok b ↔ ∃ f, s.Encodable f ∧ b = (routeRequest s f seq).encode := by
  constructor
  · intro h
    obtain ⟨f, hs⟩ := encodable_of_encodeRoute_eq_ok h
    rw [encodeRoute_eq_ok hs, Except.ok.injEq] at h
    exact ⟨f, hs, h.symm⟩
  · rintro ⟨f, hs, rfl⟩
    exact encodeRoute_eq_ok hs seq

/-! ## What the octets tell -/

/-- Octet 4 of a request is the low octet of its message type. -/
theorem encode_getElem?_four (m : RouteRequest) :
    m.encode[4]? = some (m.op.messageType % 256).toUInt8 := by
  simp [RouteRequest.encode, putU32, putU16]

/-- Octet 16 of a request is its family. -/
theorem encode_getElem?_sixteen (m : RouteRequest) : m.encode[16]? = some m.header.family := by
  simp [RouteRequest.encode, putU32, putU16, RouteHeader.encode]

/-- Octet 23 of a request is its route type. -/
theorem encode_getElem?_twentyThree (m : RouteRequest) : m.encode[23]? = some m.header.kind := by
  simp [RouteRequest.encode, putU32, putU16, RouteHeader.encode]

/-- The octets of a leading destination attribute start at octet 32. -/
theorem encode_octets {m : RouteRequest} {a : IpAddress} {rest : List RouteAttr}
    (h : m.attrs = .dst a :: rest) : (m.encode.drop 32).take a.octets.length = a.octets := by
  simp [RouteRequest.encode, putU32, putU16, RouteHeader.encode, h, RouteAttr.encode,
    RouteAttr.payload]

/-- A route request tells its operation, its kind and its destination: two routes encoded to the
same octets agree on all three. -/
theorem encodeRoute_determines {s₁ s₂ : RouteSpec} {k₁ k₂ : UInt32} {b : List UInt8}
    (h₁ : encodeRoute s₁ k₁ = .ok b) (h₂ : encodeRoute s₂ k₂ = .ok b) :
    s₁.op = s₂.op ∧ s₁.kind = s₂.kind ∧ s₁.dest = s₂.dest := by
  obtain ⟨f₁, hs₁, rfl⟩ := encodeRoute_eq_ok_iff.1 h₁
  obtain ⟨f₂, hs₂, hb⟩ := encodeRoute_eq_ok_iff.1 h₂
  have hop := congrArg (·[4]?) hb
  have hfam := congrArg (·[16]?) hb
  have hkind := congrArg (·[23]?) hb
  simp only [encode_getElem?_four, encode_getElem?_sixteen, encode_getElem?_twentyThree,
    routeRequest, RouteHeader.forHost, Option.some.injEq] at hop hfam hkind
  have hf : f₁ = f₂ := by cases f₁ <;> cases f₂ <;> simp_all [IpFamily.code]
  subst hf
  refine ⟨?_, ?_, ?_⟩
  · cases h : s₁.op <;> cases h' : s₂.op <;> simp_all [RouteOp.messageType]
  · cases h : s₁.kind <;> cases h' : s₂.kind <;> simp_all [RouteKind.code]
  · -- same family, so the same number of destination octets at the same place
    obtain ⟨hf₁, -⟩ := hs₁
    obtain ⟨hf₂, -⟩ := hs₂
    have ho₁ := encode_octets (m := routeRequest s₁ f₁ k₁) rfl
    have ho₂ := encode_octets (m := routeRequest s₂ f₁ k₂) rfl
    rw [hb, IpAddress.length_octets hf₁] at ho₁
    rw [IpAddress.length_octets hf₂] at ho₂
    exact IpAddress.eq_of_family?_eq_of_octets_eq (hf₁.trans hf₂.symm) (ho₁.symm.trans ho₂)

/-- `msg` is a request for a route with operation `op` and kind `kind` to `dest`, under some
sequence number: for a withdrawal, an `RTM_DELROUTE` for `dest`. -/
def IsRouteMessage (op : RouteOp) (kind : RouteKind) (dest : IpAddress) (msg : List UInt8) :
    Prop :=
  ∃ s seq, s.op = op ∧ s.kind = kind ∧ s.dest = dest ∧ encodeRoute s seq = .ok msg

/-- The encoding of a route is a message for that route's operation, kind and destination
only. -/
theorem IsRouteMessage.of_encodeRoute {s : RouteSpec} {seq : UInt32} {msg : List UInt8}
    (h : encodeRoute s seq = .ok msg) {op kind dest} (hm : IsRouteMessage op kind dest msg) :
    s.op = op ∧ s.kind = kind ∧ s.dest = dest := by
  obtain ⟨s', seq', rfl, rfl, rfl, h'⟩ := hm
  exact encodeRoute_determines h h'

/-! ## Numbered streams -/

/-- `msgs` are the requests of `routes` in order, numbered on from `seq` by the wrapping 32-bit
counter, which ends at `seq'`. -/
inductive Numbered : UInt32 → List RouteSpec → List (List UInt8) → UInt32 → Prop
  | nil (seq : UInt32) : Numbered seq [] [] seq
  | cons {seq seq' : UInt32} {s : RouteSpec} {routes : List RouteSpec} {msg : List UInt8}
      {msgs : List (List UInt8)} :
      encodeRoute s (seq + 1) = .ok msg → Numbered (seq + 1) routes msgs seq' →
      Numbered seq (s :: routes) (msg :: msgs) seq'

namespace Numbered

variable {a b c : UInt32} {routes r₁ r₂ : List RouteSpec} {msgs m₁ m₂ : List (List UInt8)}

/-- Two numbered streams, the second starting where the first ends, make one. -/
theorem append (h₁ : Numbered a r₁ m₁ b) (h₂ : Numbered b r₂ m₂ c) :
    Numbered a (r₁ ++ r₂) (m₁ ++ m₂) c := by
  induction h₁ with
  | nil => exact h₂
  | cons he _ ih => exact .cons he (ih h₂)

/-- Every message of a numbered stream encodes one of its routes. -/
theorem exists_route (h : Numbered a routes msgs b) {msg : List UInt8} (hm : msg ∈ msgs) :
    ∃ s ∈ routes, ∃ k, encodeRoute s k = .ok msg := by
  induction h with
  | nil => simp at hm
  | cons he _ ih =>
    rcases List.mem_cons.1 hm with rfl | hm
    · exact ⟨_, List.mem_cons_self, _, he⟩
    · obtain ⟨s, hs, k, hk⟩ := ih hm
      exact ⟨s, List.mem_cons_of_mem _ hs, k, hk⟩

/-- Every route of a numbered stream has its message there. -/
theorem exists_msg (h : Numbered a routes msgs b) {s : RouteSpec} (hs : s ∈ routes) :
    ∃ msg ∈ msgs, ∃ k, encodeRoute s k = .ok msg := by
  induction h with
  | nil => simp at hs
  | cons he _ ih =>
    rcases List.mem_cons.1 hs with rfl | hs
    · exact ⟨_, List.mem_cons_self, _, he⟩
    · obtain ⟨msg, hm, k, hk⟩ := ih hs
      exact ⟨msg, List.mem_cons_of_mem _ hm, k, hk⟩

end Numbered

end Wire

end RouteLease
