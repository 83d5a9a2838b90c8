import RouteLease.RouteTable

/-!
# The address and expiry orders are linear

Every set and map of the daemon is a list sorted by `compare`, so what they do rests on that
comparison being a linear order: transitive, turned around by swapping its arguments, and equal
only on equal values. This file shows it for the two orders the route table uses.

The address order is the one derived for the enum: kinds in declaration order, and IPv4 octets or
IPv6 sixteen-bit segments as the standard order of lists. A segment is two octets, most significant
first, so two segment lists compare as the octet strings they are read from (`compare_groups`), and
the derived order is the order by kind, then by octets (`IpAddress.compare_eq_then`). An expiry
mark compares by its expiration, then by its destination. Both are therefore lexicographic
combinations of linear orders, and the laws come from the standard library's instances for
`compareLex`. Equality needs one more step each: the kind and the octets determine an address, and
the two fields determine a mark.

Raw octets build the address of their length's family, with those octets, and the invalid address
for any other length (`ofOctets_of_length_four`, `ofOctets_of_length_sixteen`,
`ofOctets_of_length_ne`). Octet strings of one width therefore compare as addresses exactly as they
compare as lists (`compare_ofOctets`). `address_order_lexicographic` gathers the whole picture.
-/

namespace RouteLease

/-- Octets compare as their values. -/
theorem UInt8.compare_eq_compare_toNat (x y : UInt8) : compare x y = compare x.toNat y.toNat := by
  show compareOfLessAndEq x y = compareOfLessAndEq x.toNat y.toNat
  simp only [compareOfLessAndEq, UInt8.lt_iff_toNat_lt, ← UInt8.toNat_inj]

/-- Two-digit numerals in base 256 compare by their high digits, then by their low ones. -/
theorem compare_mul_add {x y x' y' : Nat} (hy : y < 256) (hy' : y' < 256) :
    compare (x * 256 + y) (x' * 256 + y') = (compare x x').then (compare y y') := by
  cases hx : compare x x' with
  | lt => exact Nat.compare_eq_lt.2 (by have := Nat.compare_eq_lt.1 hx; omega)
  | gt => exact Nat.compare_eq_gt.2 (by have := Nat.compare_eq_gt.1 hx; omega)
  | eq =>
    -- equal high digits: the low digits decide
    obtain rfl := Nat.compare_eq_eq.1 hx
    cases hl : compare y y' with
    | lt => exact Nat.compare_eq_lt.2 (by have := Nat.compare_eq_lt.1 hl; omega)
    | eq => exact Nat.compare_eq_eq.2 (by have := Nat.compare_eq_eq.1 hl; omega)
    | gt => exact Nat.compare_eq_gt.2 (by have := Nat.compare_eq_gt.1 hl; omega)

namespace IpAddress

/-- Octet strings of one even length compare as their sixteen-bit groups do. -/
theorem compare_groups {a b : List UInt8} (hl : a.length = b.length) (he : a.length % 2 = 0) :
    compare (groups a) (groups b) = compare a b := by
  induction a using groups.induct generalizing b with
  | case1 x y r ih =>
    rcases b with _ | ⟨x', _ | ⟨y', r'⟩⟩
    · simp at hl
    · simp at hl
    simp only [List.length_cons] at hl he
    -- one group is two octets, so one step of the group order is two of the octet order
    rw [groups, groups, List.compare_cons_cons, ih (by omega) (by omega),
      List.compare_cons_cons, List.compare_cons_cons, ← Ordering.then_assoc,
      compare_mul_add (UInt8.toNat_lt _) (UInt8.toNat_lt _),
      UInt8.compare_eq_compare_toNat, UInt8.compare_eq_compare_toNat]
  | case2 a hne =>
    -- without two leading octets `a` is empty, a single octet being odd, and so is `b`
    rcases a with _ | ⟨x, _ | ⟨y, r⟩⟩
    · rw [List.eq_nil_of_length_eq_zero hl.symm]
      rfl
    · simp at he
    · exact absurd rfl (hne x y r)

/-- Position of the address's kind in the order: invalid, then IPv4, then IPv6. -/
def rank : IpAddress → Nat
  | invalid => 0
  | v4 _ => 1
  | v6 _ => 2

/-- Addresses compare by kind, then by octets. -/
theorem compare_eq_then (a b : IpAddress) :
    compare a b = (compare a.rank b.rank).then (compare a.octets b.octets) := by
  -- apart from two IPv6 addresses, both sides compute to the same value
  cases a with
  | v6 o =>
    cases b with
    | v6 o' =>
      show compare (groups o.toList) (groups o'.toList) = compare o.toList o'.toList
      exact compare_groups (by simp) (by simp)
    | _ => rfl
  | _ => cases b <;> rfl

/-- The address order is the lexicographic combination of the orders of kinds and of octets. -/
theorem compare_eq_compareLex :
    (compare : IpAddress → IpAddress → Ordering) =
      compareLex (compareOn rank) (compareOn octets) :=
  funext fun a => funext (compare_eq_then a)

/-- The kind and the octets of an address determine it. -/
theorem eq_of_rank_eq_of_octets_eq {a b : IpAddress} (hr : a.rank = b.rank)
    (ho : a.octets = b.octets) : a = b := by
  cases a <;> cases b <;> simp_all [rank, octets, Vector.toList_inj]

/-- The address order is transitive, as a lexicographic combination of transitive orders. -/
instance : Std.TransOrd IpAddress := by
  unfold Std.TransOrd
  rw [compare_eq_compareLex]
  infer_instance

/-- Addresses compare equal only when they are equal. -/
instance : Std.LawfulEqOrd IpAddress where
  eq_of_compare {a b} h := by
    rw [compare_eq_compareLex, compareLex_eq_eq] at h
    exact eq_of_rank_eq_of_octets_eq (Std.LawfulEqOrd.eq_of_compare h.1)
      (Std.LawfulEqOrd.eq_of_compare h.2)

/-- The only address that is not valid is the placeholder. -/
theorem eq_invalid_of_isValid_eq_false {a : IpAddress} (h : a.isValid = false) : a = invalid := by
  cases a with
  | invalid => rfl
  | v4 o => cases h
  | v6 o => cases h

/-! ### Addresses from raw octets -/

section Octets

variable {b b' : List UInt8}

/-- Four octets build the IPv4 address of those octets. -/
theorem ofOctets_of_length_four (h : b.length = 4) :
    ofOctets b = v4 ⟨b.toArray, by simpa using h⟩ := by
  simp [ofOctets, h]

/-- Sixteen octets build the IPv6 address of those octets. -/
theorem ofOctets_of_length_sixteen (h : b.length = 16) :
    ofOctets b = v6 ⟨b.toArray, by simpa using h⟩ := by
  simp [ofOctets, h]

/-- Any other number of octets builds the invalid address. -/
theorem ofOctets_of_length_ne (h4 : b.length ≠ 4) (h16 : b.length ≠ 16) :
    ofOctets b = invalid := by
  simp [ofOctets, h4, h16]

/-- Four octets build an IPv4 address with those octets, and nothing else does. -/
theorem exists_ofOctets_eq_v4_iff : (∃ o, ofOctets b = v4 o ∧ o.toList = b) ↔ b.length = 4 := by
  constructor
  · rintro ⟨o, -, rfl⟩
    exact o.length_toList
  · intro h
    exact ⟨_, ofOctets_of_length_four h, by simp⟩

/-- Sixteen octets build an IPv6 address with those octets, and nothing else does. -/
theorem exists_ofOctets_eq_v6_iff : (∃ o, ofOctets b = v6 o ∧ o.toList = b) ↔ b.length = 16 := by
  constructor
  · rintro ⟨o, -, rfl⟩
    exact o.length_toList
  · intro h
    exact ⟨_, ofOctets_of_length_sixteen h, by simp⟩

/-- Any other number of octets gives the invalid address. -/
theorem ofOctets_eq_invalid_iff : ofOctets b = invalid ↔ b.length ≠ 4 ∧ b.length ≠ 16 := by
  constructor
  · intro h
    refine ⟨fun h4 => ?_, fun h16 => ?_⟩
    · rw [ofOctets_of_length_four h4] at h
      cases h
    · rw [ofOctets_of_length_sixteen h16] at h
      cases h
  · rintro ⟨h4, h16⟩
    exact ofOctets_of_length_ne h4 h16

/-- The kind of the address built from octets depends on their number alone. -/
theorem rank_ofOctets (b : List UInt8) :
    (ofOctets b).rank = if b.length = 4 then 1 else if b.length = 16 then 2 else 0 := by
  by_cases h4 : b.length = 4
  · rw [ofOctets_of_length_four h4, if_pos h4]; rfl
  by_cases h16 : b.length = 16
  · rw [ofOctets_of_length_sixteen h16, if_neg h4, if_pos h16]; rfl
  · rw [ofOctets_of_length_ne h4 h16, if_neg h4, if_neg h16]; rfl

/-- An address built from four or sixteen octets has those octets. -/
theorem octets_ofOctets (h : b.length = 4 ∨ b.length = 16) : (ofOctets b).octets = b := by
  rcases h with h | h
  · simp [ofOctets_of_length_four h, octets]
  · simp [ofOctets_of_length_sixteen h, octets]

/-- Octet strings of one address width compare as addresses as they compare as lists: building
an address keeps the order, strictly. -/
theorem compare_ofOctets (hl : b.length = b'.length) (hw : b.length = 4 ∨ b.length = 16) :
    compare (ofOctets b) (ofOctets b') = compare b b' := by
  -- the same length gives the same kind, so the octets decide
  have hr : (ofOctets b).rank = (ofOctets b').rank := by
    rw [rank_ofOctets, rank_ofOctets, hl]
  rw [compare_eq_then, hr, Std.ReflOrd.compare_self, Ordering.eq_then, octets_ofOctets hw,
    octets_ofOctets (hl ▸ hw)]

end Octets

end IpAddress

namespace ExpiryMark

/-- Marks compare by expiration, then by destination. -/
theorem compare_eq_then (a b : ExpiryMark) :
    compare a b = (compare a.expiration b.expiration).then (compare a.dest b.dest) := by
  show ExpiryMark.compare a b = _
  unfold ExpiryMark.compare
  cases compare a.expiration b.expiration <;> rfl

/-- The mark order is the lexicographic combination of the orders of expirations and of
destinations. -/
theorem compare_eq_compareLex :
    (compare : ExpiryMark → ExpiryMark → Ordering) =
      compareLex (compareOn expiration) (compareOn dest) :=
  funext fun a => funext (compare_eq_then a)

/-- The mark order is transitive, as a lexicographic combination of transitive orders. -/
instance : Std.TransOrd ExpiryMark := by
  unfold Std.TransOrd
  rw [compare_eq_compareLex]
  infer_instance

/-- Marks compare equal only when they are equal. -/
instance : Std.LawfulEqOrd ExpiryMark where
  eq_of_compare {a b} h := by
    rw [compare_eq_compareLex, compareLex_eq_eq] at h
    have he : a.expiration = b.expiration := Std.LawfulEqOrd.eq_of_compare h.1
    have hd : a.dest = b.dest := Std.LawfulEqOrd.eq_of_compare h.2
    cases a
    cases b
    simp_all

end ExpiryMark

open IpAddress in
/-- The orders of addresses and expiry marks, from the octets up. Raw octets build an IPv4 address
when there are four of them, an IPv6 address when there are sixteen, each with those octets, and
the invalid address otherwise. Addresses compare by kind (invalid, IPv4, IPv6) and then by octets
lexicographically; this is a linear order, in which invalid addresses are all equal and octet
strings of one width keep their order as addresses. Expiry marks compare by expiration, then by
destination. -/
theorem address_order_lexicographic :
    (∀ b : List UInt8,
      ((∃ o, ofOctets b = v4 o ∧ o.toList = b) ↔ b.length = 4) ∧
      ((∃ o, ofOctets b = v6 o ∧ o.toList = b) ↔ b.length = 16) ∧
      (ofOctets b = invalid ↔ b.length ≠ 4 ∧ b.length ≠ 16)) ∧
    (∀ x y : IpAddress, compare x y = (compare x.rank y.rank).then (compare x.octets y.octets)) ∧
    Std.TransOrd IpAddress ∧ Std.LawfulEqOrd IpAddress ∧
    (∀ x y : IpAddress, x.isValid = false → y.isValid = false → compare x y = .eq) ∧
    (∀ b b' : List UInt8, b.length = b'.length → (b.length = 4 ∨ b.length = 16) →
      compare (ofOctets b) (ofOctets b') = compare b b') ∧
    ∀ m m' : ExpiryMark,
      compare m m' = (compare m.expiration m'.expiration).then (compare m.dest m'.dest) := by
  refine ⟨fun b => ⟨exists_ofOctets_eq_v4_iff, exists_ofOctets_eq_v6_iff, ofOctets_eq_invalid_iff⟩,
    IpAddress.compare_eq_then, inferInstance, inferInstance, ?_, fun _ _ => compare_ofOctets,
    ExpiryMark.compare_eq_then⟩
  intro x y hx hy
  rw [eq_invalid_of_isValid_eq_false hx, eq_invalid_of_isValid_eq_false hy]
  exact Std.ReflOrd.compare_self

open IpAddress in
/-- Neighbouring IPv4 addresses keep their order, and two octet strings of no address width give
the same invalid address. -/
theorem address_order_lexicographic_neighbours :
    [10, 0, 0, 1].length = ([10, 0, 0, 2] : List UInt8).length ∧
      compare (ofOctets [10, 0, 0, 1]) (ofOctets [10, 0, 0, 2]) = .lt ∧
      (ofOctets [1, 2, 3]).isValid = false ∧ (ofOctets []).isValid = false ∧
      compare (ofOctets [1, 2, 3]) (ofOctets []) = .eq := by
  obtain ⟨-, -, -, -, hinvalid, hwidth, -⟩ := address_order_lexicographic
  refine ⟨rfl, ?_, rfl, rfl, hinvalid _ _ rfl rfl⟩
  rw [hwidth [10, 0, 0, 1] [10, 0, 0, 2] rfl (.inl rfl)]
  decide

end RouteLease
