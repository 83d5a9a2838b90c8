import RouteLease.Proofs.Wire.Decode

/-!
# Building a route request under a capacity

A route request is built by one creation and then calls of `push`, each on the builder as the
calls before left it. A call that would overflow the capacity fails and leaves the builder as it
was (`RouteRequest.pushInPlace`), so a later, smaller attribute may still fit; `pushEach` makes
such calls one after another, whatever each returns.

`pushInPlace_cases` says once what a call can do: fail with the length it would have needed, or
append the attribute and grow the length by the attribute's size. From it:

* a builder never grows past its capacity (`length_pushEach_le`);
* after any calls, the builder holds exactly the attributes whose call succeeded, in order
  (`pushEach_fst`);
* the finished request is as long as the builder says: both headers, the length field first, and
  the attributes that were appended (`encode_eq_header_append`, `routeRequest_within_capacity`).
-/

namespace RouteLease.Wire

/-- An address attribute takes its header and the address's octets, which fill whole words. -/
theorem RouteAttr.size_address {a : IpAddress} {f : IpFamily} (h : a.family? = some f) :
    (RouteAttr.dst a).size = 4 + f.width ∧ (RouteAttr.gateway a).size = 4 + f.width := by
  have hw : (4 + f.width) % 4 = 0 := by cases f <;> rfl
  simp only [RouteAttr.size, RouteAttr.payload, IpAddress.length_octets h, align4]
  omega

/-- A number attribute takes its header and four octets. -/
theorem RouteAttr.size_number (n : UInt32) :
    (RouteAttr.oif n).size = 8 ∧ (RouteAttr.priority n).size = 8 ∧
      (RouteAttr.table n).size = 8 := by
  simp [RouteAttr.size, RouteAttr.payload, length_putU32, align4]

namespace RouteRequest

/-- A call of `push` on a builder held in place: the builder afterwards, which is the same builder
when the call fails, and what the call returns. -/
def pushInPlace (m : RouteRequest) (a : RouteAttr) : RouteRequest × Except CodecError Unit :=
  match m.push a with
  | .ok m' => (m', .ok ())
  | .error e => (m, .error e)

/-- Calls of `push` one after another on a builder held in place, each made whatever the calls
before it returned: the builder afterwards and what each call returned. -/
def pushEach (m : RouteRequest) : List RouteAttr → RouteRequest × List (Except CodecError Unit)
  | [] => (m, [])
  | a :: as =>
    let step := m.pushInPlace a
    let rest := step.1.pushEach as
    (rest.1, step.2 :: rest.2)

/-- The attributes whose call succeeded, in order, given what each call returned. -/
def accepted (as : List RouteAttr) (rs : List (Except CodecError Unit)) : List RouteAttr :=
  ((as.zip rs).filter fun p => p.2.isOk).map Prod.fst

/-- Of no attributes none is accepted. -/
@[simp] theorem accepted_nil_left (rs : List (Except CodecError Unit)) : accepted [] rs = [] := rfl

/-- An attribute whose call succeeded is accepted. -/
theorem accepted_cons_ok (a : RouteAttr) (as : List RouteAttr)
    (rs : List (Except CodecError Unit)) :
    accepted (a :: as) (.ok () :: rs) = a :: accepted as rs := rfl

/-- An attribute whose call failed is left out. -/
theorem accepted_cons_error (a : RouteAttr) (as : List RouteAttr) (e : CodecError)
    (rs : List (Except CodecError Unit)) : accepted (a :: as) (.error e :: rs) = accepted as rs :=
  rfl

/-! ## One call -/

/-- Appending an attribute grows the length by the attribute's size. -/
@[simp] theorem length_append_attr (m : RouteRequest) (a : RouteAttr) :
    { m with attrs := m.attrs ++ [a] }.length = m.length + a.size := by
  simp only [length_eq_sum, List.map_append, List.map_cons, List.map_nil, List.sum_append,
    List.sum_cons, List.sum_nil]
  omega

/-- An attribute that does not fit leaves the builder as it is and reports the overflow. -/
theorem pushInPlace_of_lt {m : RouteRequest} {a : RouteAttr} (h : m.capacity < m.length + a.size) :
    m.pushInPlace a = (m, .error (.bufferOverflow (m.length + a.size) m.capacity)) := by
  simp [pushInPlace, push, h]

/-- An attribute that fits is appended. -/
theorem pushInPlace_of_le {m : RouteRequest} {a : RouteAttr}
    (h : m.length + a.size ≤ m.capacity) :
    m.pushInPlace a = ({ m with attrs := m.attrs ++ [a] }, .ok ()) := by
  simp [pushInPlace, push, Nat.not_lt.2 h]

/-- What one call can do: fail, leaving the builder as it was, when the attribute does not fit;
append it otherwise. -/
theorem pushInPlace_cases (m : RouteRequest) (a : RouteAttr) :
    (m.capacity < m.length + a.size ∧
      m.pushInPlace a = (m, .error (.bufferOverflow (m.length + a.size) m.capacity))) ∨
    (m.length + a.size ≤ m.capacity ∧
      m.pushInPlace a = ({ m with attrs := m.attrs ++ [a] }, .ok ())) := by
  by_cases h : m.capacity < m.length + a.size
  · exact .inl ⟨h, pushInPlace_of_lt h⟩
  · exact .inr ⟨Nat.le_of_not_lt h, pushInPlace_of_le (Nat.le_of_not_lt h)⟩

/-- A call keeps a builder within its capacity. -/
theorem length_pushInPlace_le {m : RouteRequest} (h : m.length ≤ m.capacity) (a : RouteAttr) :
    (m.pushInPlace a).1.length ≤ (m.pushInPlace a).1.capacity := by
  rcases pushInPlace_cases m a with ⟨-, hp⟩ | ⟨hfit, hp⟩ <;> rw [hp]
  · exact h
  · simpa using hfit

/-! ## Calls one after another -/

/-- No calls leave the builder as it is. -/
@[simp] theorem pushEach_nil (m : RouteRequest) : m.pushEach [] = (m, []) := rfl

/-- The calls push the first attribute in place, then the rest on the builder it leaves. -/
theorem pushEach_cons (m : RouteRequest) (a : RouteAttr) (as : List RouteAttr) :
    m.pushEach (a :: as) =
      (((m.pushInPlace a).1.pushEach as).1,
        (m.pushInPlace a).2 :: ((m.pushInPlace a).1.pushEach as).2) :=
  rfl

/-- After any calls, the builder holds the attributes it had and then exactly those whose call
succeeded, in order; nothing else of it changes. -/
theorem pushEach_fst (m : RouteRequest) (as : List RouteAttr) :
    (m.pushEach as).1 = { m with attrs := m.attrs ++ accepted as (m.pushEach as).2 } := by
  induction as generalizing m with
  | nil => simp
  | cons a as ih =>
    rw [pushEach_cons]
    rcases pushInPlace_cases m a with ⟨-, hp⟩ | ⟨-, hp⟩ <;> rw [hp]
    · rw [accepted_cons_error, ih m]
    · rw [accepted_cons_ok, ih, List.append_assoc, List.singleton_append]

/-- Calls never take a builder past its capacity. -/
theorem length_pushEach_le {m : RouteRequest} (h : m.length ≤ m.capacity) (as : List RouteAttr) :
    (m.pushEach as).1.length ≤ m.capacity := by
  induction as generalizing m with
  | nil => exact h
  | cons a as ih =>
    have hstep := length_pushInPlace_le h a
    have hcap : (m.pushInPlace a).1.capacity = m.capacity := by
      rcases pushInPlace_cases m a with ⟨-, hp⟩ | ⟨-, hp⟩ <;> rw [hp]
    rw [pushEach_cons, ← hcap]
    exact ih hstep

/-! ## The finished request -/

/-- The octets of a request: the netlink header with the length first, the route header, then
the attributes in order. -/
theorem encode_eq_header_append (m : RouteRequest) :
    m.encode = putU32 m.length ++ putU16 m.op.messageType ++ putU16 m.op.flags ++
      putU32 m.seq.toNat ++ putU32 0 ++ m.header.encode ++ m.attrs.flatMap RouteAttr.encode := rfl

/-- The length field reads back as the length whenever the length fits its 32 bits. -/
theorem getU32_encode {m : RouteRequest} (h : m.length < 2 ^ 32) : getU32 m.encode = m.length := by
  rw [encode_eq_header_append]
  simp only [List.append_assoc]
  exact getU32_putU32_append h _

/-- A builder is created, empty, exactly when its capacity holds the headers. -/
theorem create_eq_ok_iff {op : RouteOp} {header : RouteHeader} {seq : UInt32} {capacity : Nat}
    {m : RouteRequest} :
    RouteRequest.create op header seq capacity = .ok m ↔
      routeHeaderLength ≤ capacity ∧ m = { op, header, seq, capacity, attrs := [] } := by
  unfold create
  by_cases h : routeHeaderLength > capacity
  · simp only [h, if_true]
    constructor
    · intro h'; cases h'
    · rintro ⟨hle, -⟩; simp only [routeHeaderLength, gt_iff_lt] at h hle; omega
  · simp only [h, if_false, Except.ok.injEq]
    constructor
    · rintro rfl; exact ⟨Nat.le_of_not_lt h, rfl⟩
    · rintro ⟨-, rfl⟩; rfl

/-- A builder of route requests, for every operation, route header, sequence number and capacity:

* creating it fails with an overflow of the 28 octets of the two headers exactly when the capacity
  is below them, and otherwise gives a builder of length 28;
* a call of `push` fails with the length it would have needed exactly when the attribute does not
  fit, and then leaves the builder as it was; otherwise it appends the attribute and grows the
  length by its size;
* a number takes 8 octets, an IPv4 address 8 and an IPv6 address 20;
* a failed call does not stop a later, smaller attribute from fitting;
* after any calls the builder is within its capacity, and the finished request is exactly as long
  as the builder: the netlink header, whose length field holds the length as a 32-bit field, the
  route header, and the attributes whose call succeeded, in the order they were pushed. -/
theorem routeRequest_within_capacity :
    (∀ op header seq capacity,
      (RouteRequest.create op header seq capacity = .error (.bufferOverflow 28 capacity) ↔
        capacity < 28) ∧
      (28 ≤ capacity →
        ∃ m, RouteRequest.create op header seq capacity = .ok m ∧ m.length = 28)) ∧
    (∀ (m : RouteRequest) (a : RouteAttr), m.capacity < m.length + a.size →
      m.pushInPlace a = (m, .error (.bufferOverflow (m.length + a.size) m.capacity))) ∧
    (∀ (m : RouteRequest) (a : RouteAttr), m.length + a.size ≤ m.capacity →
      m.pushInPlace a = ({ m with attrs := m.attrs ++ [a] }, .ok ()) ∧
        { m with attrs := m.attrs ++ [a] }.length = m.length + a.size) ∧
    (∀ n : UInt32,
      (RouteAttr.oif n).size = 8 ∧ (RouteAttr.priority n).size = 8 ∧
        (RouteAttr.table n).size = 8) ∧
    (∀ o : Vector UInt8 4,
      (RouteAttr.dst (.v4 o)).size = 8 ∧ (RouteAttr.gateway (.v4 o)).size = 8) ∧
    (∀ o : Vector UInt8 16,
      (RouteAttr.dst (.v6 o)).size = 20 ∧ (RouteAttr.gateway (.v6 o)).size = 20) ∧
    (∀ (m : RouteRequest) (a b : RouteAttr), m.capacity < m.length + a.size →
      m.length + b.size ≤ m.capacity → ((m.pushInPlace a).1.pushInPlace b).2 = .ok ()) ∧
    (∀ op header seq capacity m (as : List RouteAttr),
      RouteRequest.create op header seq capacity = .ok m →
      (m.pushEach as).1.length ≤ capacity ∧
      (m.pushEach as).1.encode.length = (m.pushEach as).1.length ∧
      (m.pushEach as).1.encode =
        putU32 (m.pushEach as).1.length ++ putU16 op.messageType ++ putU16 op.flags ++
          putU32 seq.toNat ++ putU32 0 ++ header.encode ++
          (accepted as (m.pushEach as).2).flatMap RouteAttr.encode ∧
      ((m.pushEach as).1.length < 2 ^ 32 →
        getU32 (m.pushEach as).1.encode = (m.pushEach as).1.length)) := by
  refine ⟨fun op header seq capacity =>
      ⟨?_, fun h => ⟨_, create_eq_ok_iff.2 ⟨h, rfl⟩, rfl⟩⟩,
    fun m a h => pushInPlace_of_lt h,
    fun m a h => ⟨pushInPlace_of_le h, length_append_attr m a⟩,
    RouteAttr.size_number, fun o => RouteAttr.size_address (f := .v4) rfl,
    fun o => RouteAttr.size_address (f := .v6) rfl,
    fun m a b ha hb => ?_, fun op header seq capacity m as hm => ?_⟩
  · unfold create
    by_cases h : capacity < 28
    · simp [routeHeaderLength, h]
    · simp only [routeHeaderLength, gt_iff_lt, h, if_false, iff_false]
      intro h'; cases h'
  · -- the failed call leaves the builder as it was, where the smaller attribute fits
    rw [pushInPlace_of_lt ha, pushInPlace_of_le hb]
  · obtain ⟨hcap, rfl⟩ := create_eq_ok_iff.1 hm
    have hfst := pushEach_fst { op, header, seq, capacity, attrs := [] } as
    have h0 : ({ op, header, seq, capacity, attrs := [] } : RouteRequest).length ≤ capacity := by
      simpa [length] using hcap
    refine ⟨length_pushEach_le h0 as, RouteRequest.length_encode _, ?_, getU32_encode⟩
    rw [encode_eq_header_append, hfst]
    rfl

/-- In a builder with room for 40 octets, an IPv6 destination (20 octets) does not fit after the
28 of the headers, but an output interface (8 octets) still does. -/
theorem routeRequest_within_capacity_after_overflow :
    (⟨.install, .forHost .v6 1, 1, 40, []⟩ : RouteRequest).capacity <
        (⟨.install, .forHost .v6 1, 1, 40, []⟩ : RouteRequest).length +
          (RouteAttr.dst (.v6 (Vector.replicate 16 0))).size ∧
    (⟨.install, .forHost .v6 1, 1, 40, []⟩ : RouteRequest).length + (RouteAttr.oif 7).size ≤
        (⟨.install, .forHost .v6 1, 1, 40, []⟩ : RouteRequest).capacity ∧
    (((⟨.install, .forHost .v6 1, 1, 40, []⟩ : RouteRequest).pushInPlace
        (.dst (.v6 (Vector.replicate 16 0)))).1.pushInPlace (.oif 7)).2 = .ok () :=
  ⟨by decide, by decide,
    routeRequest_within_capacity.2.2.2.2.2.2.1 _ _ _ (by decide) (by decide)⟩

end RouteRequest

end RouteLease.Wire
