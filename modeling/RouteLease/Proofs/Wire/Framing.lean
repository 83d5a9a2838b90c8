import RouteLease.Proofs.Wire.Decode

/-!
# Framing a datagram

A datagram is read message by message. Each message starts where the one before it ends, its
length field rounded up to four octets, and reading stops when fewer octets than a header are
left or after the first message that cannot be read.

`parseDatagram` runs that loop on fuel, the datagram's length. The fuel never runs out, since every
message read moves on by at least a header's sixteen octets, so the loop has an equation without
fuel (`parseDatagram_eq`) and an induction principle along the messages
(`parseDatagram_induction`). From them:

* a datagram of `n` octets holds at most `n / 16` items (`length_parseDatagram_le`);
* a failed item is the last one (`parseDatagram_error_last`), and the message at the front fails
  exactly when its length field is under a header, runs past the datagram, or its body does not
  read (`decodeMessage_error_iff`);
* a message whose length field is its own length, a multiple of four, is read from its own octets
  only, so a datagram that starts with it reads as that message and then the rest
  (`parseDatagram_append`). The end of a dump is a message like any other here.
-/

namespace RouteLease.Wire

/-! ## The message at the front -/

/-- A message read has the length its length field gives, within the octets there are. -/
theorem decodeMessage_eq_ok_iff {buf : List UInt8} {ev : KernelEvent}
    {n : { n : Nat // 16 ≤ n }} :
    decodeMessage buf = .ok (ev, n) ↔
      n.1 = getU32 buf ∧ getU32 buf ≤ buf.length ∧
        decodeBody (getU16 (buf.drop 4)) ((buf.take (getU32 buf)).drop headerLength) = .ok ev := by
  unfold decodeMessage
  by_cases hover : buf.length < getU32 buf
  · rw [if_pos hover]
    constructor
    · intro h; cases h
    · rintro ⟨-, hle, -⟩; omega
  · by_cases hshort : getU32 buf < headerLength
    · rw [if_neg hover, dif_pos hshort]
      constructor
      · intro h; cases h
      · rintro ⟨hn, -, -⟩
        have := n.2
        simp only [headerLength] at hshort
        omega
    · rw [if_neg hover, dif_neg hshort]
      split
      · rename_i ev' hbody
        constructor
        · intro h
          cases h
          exact ⟨rfl, by omega, hbody⟩
        · rintro ⟨hn, -, hb⟩
          rw [hbody, Except.ok.injEq] at hb
          subst hb
          obtain ⟨n, hn16⟩ := n
          simp only at hn
          subst hn
          rfl
      · rename_i e hbody
        simp [hbody]

/-- A message fails to read exactly when its length field runs past the octets there are, is
shorter than a header, or its body does not read. -/
theorem decodeMessage_error_iff (buf : List UInt8) :
    (∃ e, decodeMessage buf = .error e) ↔
      getU32 buf < headerLength ∨ buf.length < getU32 buf ∨
        ∃ e, decodeBody (getU16 (buf.drop 4)) ((buf.take (getU32 buf)).drop headerLength) =
          .error e := by
  unfold decodeMessage
  by_cases hover : buf.length < getU32 buf
  · simp [hover]
  · by_cases hshort : getU32 buf < headerLength
    · simp [hover, hshort]
    · rw [if_neg hover, dif_neg hshort]
      split <;> simp_all

/-! ## The loop without fuel -/

/-- Fewer octets than a header end the parse, whatever the fuel. -/
theorem parseFrom_of_length_lt (fuel : Nat) {buf : List UInt8} (h : buf.length < headerLength) :
    parseFrom fuel buf = [] := by
  cases fuel with
  | zero => rfl
  | succ fuel => rw [parseFrom, if_pos h]

/-- The octets after a message read are at least a header fewer. -/
theorem length_drop_align4_le (buf : List UInt8) (n : { n : Nat // 16 ≤ n }) :
    (buf.drop (align4 n.1)).length + headerLength ≤ buf.length ∨
      (buf.drop (align4 n.1)).length = 0 := by
  have := le_align4 n.1
  have := n.2
  rw [List.length_drop, headerLength]
  omega

/-- A message that does not decode ends the parse with its error. -/
theorem parseFrom_succ_error {fuel : Nat} {buf : List UInt8} (hs : ¬ buf.length < headerLength)
    {e : DecodeError} (hm : decodeMessage buf = .error e) :
    parseFrom (fuel + 1) buf = [.error (.decode e)] := by
  rw [parseFrom, if_neg hs, hm]
  rfl

/-- A message that decodes comes first, then the messages after its aligned length. -/
theorem parseFrom_succ_ok {fuel : Nat} {buf : List UInt8} (hs : ¬ buf.length < headerLength)
    {ev : KernelEvent} {n : { n : Nat // 16 ≤ n }} (hm : decodeMessage buf = .ok (ev, n)) :
    parseFrom (fuel + 1) buf = .ok ev :: parseFrom fuel (buf.drop (align4 n.1)) := by
  rw [parseFrom, if_neg hs, hm]
  rfl

/-- Fuel beyond the datagram's length changes nothing: every message read uses up one unit of
fuel and at least a header of octets. -/
theorem parseFrom_congr_fuel {fuel fuel' : Nat} {buf : List UInt8} (h : buf.length ≤ fuel)
    (h' : fuel ≤ fuel') : parseFrom fuel' buf = parseFrom fuel buf := by
  induction fuel generalizing fuel' buf with
  | zero => rw [List.eq_nil_of_length_eq_zero (Nat.le_zero.1 h), parseFrom_nil, parseFrom_nil]
  | succ fuel ih =>
    obtain ⟨k, rfl⟩ : ∃ k, fuel' = k + 1 := ⟨fuel' - 1, by omega⟩
    by_cases hs : buf.length < headerLength
    · rw [parseFrom_of_length_lt _ hs, parseFrom_of_length_lt _ hs]
    · cases hm : decodeMessage buf with
      | error e => rw [parseFrom_succ_error hs hm, parseFrom_succ_error hs hm]
      | ok r =>
        obtain ⟨ev, n⟩ := r
        rw [parseFrom_succ_ok hs hm, parseFrom_succ_ok hs hm]
        have hrest := length_drop_align4_le buf n
        rw [ih (by simp only [headerLength] at hrest hs; omega) (by omega)]

/-- The loop of `parseDatagram` without its fuel. -/
theorem parseDatagram_eq (buf : List UInt8) :
    parseDatagram buf =
      if buf.length < headerLength then []
      else match decodeMessage buf with
        | .error e => [.error (.decode e)]
        | .ok (ev, n) => .ok ev :: parseDatagram (buf.drop (align4 n.1)) := by
  split
  · exact parseFrom_of_length_lt _ ‹_›
  · rename_i hs
    obtain ⟨k, hk⟩ : ∃ k, buf.length = k + 1 :=
      ⟨buf.length - 1, by simp [headerLength] at hs; omega⟩
    split
    · rename_i e hm
      rw [parseDatagram, hk, parseFrom_succ_error hs hm]
    · rename_i ev n hm
      rw [parseDatagram, hk, parseFrom_succ_ok hs hm, parseDatagram]
      -- the rest is shorter than the datagram, so its own length is fuel enough
      have hrest : (buf.drop (align4 n.1)).length ≤ k := by
        have := length_drop_align4_le buf n
        simp only [headerLength] at this
        omega
      rw [parseFrom_congr_fuel (Nat.le_refl _) hrest]

/-- A datagram shorter than a header holds no messages. -/
theorem parseDatagram_of_length_lt {buf : List UInt8} (h : buf.length < headerLength) :
    parseDatagram buf = [] := by
  rw [parseDatagram_eq, if_pos h]

/-- A datagram whose first message does not decode gives that error alone. -/
theorem parseDatagram_of_error {buf : List UInt8} (hs : headerLength ≤ buf.length)
    {e : DecodeError} (hm : decodeMessage buf = .error e) :
    parseDatagram buf = [.error (.decode e)] := by
  rw [parseDatagram_eq, if_neg (by omega), hm]

/-- A datagram whose first message decodes gives it, then the messages after its aligned length. -/
theorem parseDatagram_of_ok {buf : List UInt8} (hs : headerLength ≤ buf.length)
    {ev : KernelEvent} {n : { n : Nat // 16 ≤ n }} (hm : decodeMessage buf = .ok (ev, n)) :
    parseDatagram buf = .ok ev :: parseDatagram (buf.drop (align4 n.1)) := by
  rw [parseDatagram_eq, if_neg (by omega), hm]

/-- Induction along the messages of a datagram: one too short for a header, one whose front
message fails, and one whose front message reads, given the rest after that message. -/
theorem parseDatagram_induction {motive : List UInt8 → Prop}
    (short : ∀ buf, buf.length < headerLength → motive buf)
    (error : ∀ buf e, headerLength ≤ buf.length → decodeMessage buf = .error e → motive buf)
    (ok : ∀ buf ev (n : { n : Nat // 16 ≤ n }), headerLength ≤ buf.length →
      decodeMessage buf = .ok (ev, n) → motive (buf.drop (align4 n.1)) → motive buf)
    (buf : List UInt8) : motive buf := by
  -- on the length: the rest after a message read is shorter
  induction h : buf.length using Nat.strongRecOn generalizing buf with
  | ind len ih =>
    subst h
    by_cases hs : buf.length < headerLength
    · exact short buf hs
    · cases hm : decodeMessage buf with
      | error e => exact error buf e (by omega) hm
      | ok r =>
        obtain ⟨ev, n⟩ := r
        have hrest := length_drop_align4_le buf n
        exact ok buf ev n (by omega) hm
          (ih _ (by simp only [headerLength] at hrest hs; omega) _ rfl)

/-! ## Counting and stopping -/

/-- Every item takes at least a header's sixteen octets of the datagram. -/
theorem length_parseDatagram_le (buf : List UInt8) :
    (parseDatagram buf).length ≤ buf.length / headerLength := by
  induction buf using parseDatagram_induction with
  | short buf hs => simp [parseDatagram_of_length_lt hs]
  | error buf e hs hm =>
    rw [parseDatagram_of_error hs hm]
    simp only [List.length_singleton, headerLength] at hs ⊢
    omega
  | ok buf ev n hs hm ih =>
    rw [parseDatagram_of_ok hs hm, List.length_cons]
    have hrest := length_drop_align4_le buf n
    simp only [headerLength] at hrest hs ih ⊢
    omega

/-- Reading stops at the first item that failed. -/
theorem parseDatagram_error_last {buf : List UInt8} {i : Nat} {e : CodecError}
    (h : (parseDatagram buf)[i]? = some (.error e)) : i + 1 = (parseDatagram buf).length := by
  induction buf using parseDatagram_induction generalizing i with
  | short buf hs => simp [parseDatagram_of_length_lt hs] at h
  | error buf e' hs hm =>
    rw [parseDatagram_of_error hs hm] at h ⊢
    cases i <;> simp_all
  | ok buf ev n hs hm ih =>
    rw [parseDatagram_of_ok hs hm] at h ⊢
    cases i with
    | zero => simp at h
    | succ i =>
      rw [List.getElem?_cons_succ] at h
      rw [List.length_cons, ih h]

/-- An item read at the front of a datagram is its front message, and the items after it are
those of the octets after that message. -/
theorem parseDatagram_eq_ok_cons_decode {buf : List UInt8} {ev : KernelEvent}
    {items : List (Except CodecError KernelEvent)} (h : parseDatagram buf = .ok ev :: items) :
    headerLength ≤ buf.length ∧ ∃ n : { n : Nat // 16 ≤ n },
      decodeMessage buf = .ok (ev, n) ∧ items = parseDatagram (buf.drop (align4 n.1)) := by
  have hs : headerLength ≤ buf.length := by
    refine Nat.le_of_not_lt fun hs => ?_
    rw [parseDatagram_of_length_lt hs] at h
    cases h
  cases hm : decodeMessage buf with
  | error e =>
    rw [parseDatagram_of_error hs hm] at h
    cases h
  | ok r =>
    obtain ⟨ev', n⟩ := r
    rw [parseDatagram_of_ok hs hm, List.cons.injEq, Except.ok.injEq] at h
    obtain ⟨rfl, hitems⟩ := h
    exact ⟨hs, n, rfl, hitems.symm⟩

/-! ## Messages read from their own octets -/

/-- A 16-bit field reads the octets it starts with only. -/
theorem getU16_append {b : List UInt8} (h : 2 ≤ b.length) (rest : List UInt8) :
    getU16 (b ++ rest) = getU16 b := by
  simp only [getU16, List.getD_eq_getElem?_getD,
    List.getElem?_append_left (show 0 < b.length by omega),
    List.getElem?_append_left (show 1 < b.length by omega)]

/-- A 32-bit field reads the octets it starts with only. -/
theorem getU32_append {b : List UInt8} (h : 4 ≤ b.length) (rest : List UInt8) :
    getU32 (b ++ rest) = getU32 b := by
  simp only [getU32, List.getD_eq_getElem?_getD,
    List.getElem?_append_left (show 0 < b.length by omega),
    List.getElem?_append_left (show 1 < b.length by omega),
    List.getElem?_append_left (show 2 < b.length by omega),
    List.getElem?_append_left (show 3 < b.length by omega)]

/-- A message whose length field is its own length reads the same whatever follows it. -/
theorem decodeMessage_append {m : List UInt8} (hfield : getU32 m = m.length)
    (h16 : headerLength ≤ m.length) (rest : List UInt8) :
    decodeMessage (m ++ rest) = decodeMessage m := by
  have h16' : 16 ≤ m.length := by simpa [headerLength] using h16
  have h4 : getU32 (m ++ rest) = getU32 m := getU32_append (by omega) rest
  have htype : getU16 ((m ++ rest).drop 4) = getU16 (m.drop 4) := by
    rw [List.drop_append_of_le_length (by omega), getU16_append (by simp; omega)]
  unfold decodeMessage
  simp only [h4, htype, hfield, List.length_append, List.take_left, List.take_length]
  rw [if_neg (by omega), if_neg (by omega), dif_neg (by omega), dif_neg (by omega)]

/-- A whole message, aligned to four octets and read as one item, is read the same at the front of
any datagram, and reading goes on with what follows it. -/
theorem parseDatagram_append {m : List UInt8} {ev : KernelEvent}
    (hm : parseDatagram m = [.ok ev]) (h4 : m.length % 4 = 0) (hfield : getU32 m = m.length)
    (rest : List UInt8) : parseDatagram (m ++ rest) = parseDatagram m ++ parseDatagram rest := by
  obtain ⟨hs, n, hd, -⟩ := parseDatagram_eq_ok_cons_decode hm
  have hn : n.1 = m.length := ((decodeMessage_eq_ok_iff.1 hd).1).trans hfield
  have halign : align4 n.1 = m.length := by rw [hn, align4]; omega
  rw [hm, parseDatagram_of_ok (by simp; omega) ((decodeMessage_append hfield hs rest).trans hd),
    halign, List.drop_left]
  rfl

/-! ## Items and the offsets they stand at -/

/-- A message read at the front: its length field is at least a header and within the octets
there are, and reading goes on after it, rounded up to four octets. -/
theorem parseDatagram_eq_ok_cons {buf : List UInt8} {ev : KernelEvent}
    {items : List (Except CodecError KernelEvent)} (h : parseDatagram buf = .ok ev :: items) :
    headerLength ≤ getU32 buf ∧ getU32 buf ≤ buf.length ∧
      items = parseDatagram (buf.drop (align4 (getU32 buf))) := by
  obtain ⟨-, n, hm, hitems⟩ := parseDatagram_eq_ok_cons_decode h
  obtain ⟨hn, hle, -⟩ := decodeMessage_eq_ok_iff.1 hm
  exact ⟨hn ▸ n.2, hle, hn ▸ hitems⟩

/-- The message at the front of a datagram that has a header fails exactly when its length field
is under a header, runs past the octets there are, or its body does not read; it is then the only
item. -/
theorem parseDatagram_eq_error_iff {buf : List UInt8} (hs : headerLength ≤ buf.length) :
    (∃ e, parseDatagram buf = [.error e]) ↔
      getU32 buf < headerLength ∨ buf.length < getU32 buf ∨
        ∃ e, decodeBody (getU16 (buf.drop 4)) ((buf.take (getU32 buf)).drop headerLength) =
          .error e := by
  rw [← decodeMessage_error_iff]
  cases hm : decodeMessage buf with
  | error e => exact ⟨fun _ => ⟨e, rfl⟩, fun _ => ⟨_, parseDatagram_of_error hs hm⟩⟩
  | ok r =>
    obtain ⟨ev, n⟩ := r
    rw [parseDatagram_of_ok hs hm]
    simp

/-- How every datagram is framed:

* it holds at most one item for every sixteen octets, and none below a header's sixteen;
* a message read, whatever it says (the end of a dump too), has a length field of at least a
  header and within the octets left, and reading goes on past it, its length rounded up to four
  octets;
* an item that failed is the last one, and the message at the front fails exactly when its length
  field is under a header, runs past the octets left, or its body does not read;
* a whole message, aligned to four octets and read as one item, reads the same before any rest,
  and reading goes on with that rest. -/
theorem datagram_framing :
    (∀ buf, (parseDatagram buf).length ≤ buf.length / headerLength) ∧
    (∀ buf, buf.length < headerLength → parseDatagram buf = []) ∧
    (∀ buf ev items, parseDatagram buf = .ok ev :: items →
      headerLength ≤ getU32 buf ∧ getU32 buf ≤ buf.length ∧
        items = parseDatagram (buf.drop (align4 (getU32 buf)))) ∧
    (∀ buf i e, (parseDatagram buf)[i]? = some (.error e) →
      i + 1 = (parseDatagram buf).length) ∧
    (∀ buf, headerLength ≤ buf.length →
      ((∃ e, parseDatagram buf = [.error e]) ↔
        getU32 buf < headerLength ∨ buf.length < getU32 buf ∨
          ∃ e, decodeBody (getU16 (buf.drop 4)) ((buf.take (getU32 buf)).drop headerLength) =
            .error e)) ∧
    (∀ m rest ev, parseDatagram m = [.ok ev] → m.length % 4 = 0 → getU32 m = m.length →
      parseDatagram (m ++ rest) = parseDatagram m ++ parseDatagram rest) :=
  ⟨length_parseDatagram_le, fun _ => parseDatagram_of_length_lt,
    fun _ _ _ => parseDatagram_eq_ok_cons,
    fun _ _ _ => parseDatagram_error_last, fun _ => parseDatagram_eq_error_iff,
    fun _ rest _ hm h4 hfield => parseDatagram_append hm h4 hfield rest⟩

/-- Two ends of a dump back to back are read as two items: the end of a dump does not end the
datagram. -/
theorem datagram_framing_two_dump_ends :
    parseDatagram ([16, 0, 0, 0, 3, 0, 2, 0, 1, 0, 0, 0, 0, 0, 0, 0] ++
      [16, 0, 0, 0, 3, 0, 2, 0, 1, 0, 0, 0, 0, 0, 0, 0]) = [.ok .done, .ok .done] := by
  have hone : parseDatagram [16, 0, 0, 0, 3, 0, 2, 0, 1, 0, 0, 0, 0, 0, 0, 0] = [.ok .done] := by
    simp [parseDatagram_eq, decodeMessage, getU32, getU16, decodeBody, headerLength, align4]
  rw [datagram_framing.2.2.2.2.2 _ _ .done hone (by decide) (by decide), hone]
  rfl

end RouteLease.Wire
