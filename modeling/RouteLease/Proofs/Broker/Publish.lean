import Mathlib.Data.Finset.Card
import RouteLease.Proofs.Sorted
import RouteLease.Broker.Recorder

/-!
# Publishing terminates and gives the senders back

A publish runs the handlers of its subscribers, and a handler may publish again. The broker
drops a nested publish from a sender already in flight, so every broadcast on the stack has its
own sender. When the handlers publish only as the dispatch's senders (`Dispatch.Closed`), a
broadcast below a publish as `sender` can only start for a sender of `idleSenders`: those of the
dispatch and `sender` itself that are not in flight yet. Each broadcast puts one of them in
flight for its nested publishes, so the count of idle senders is a measure of the recursion, and
room for that many nested broadcasts is as good as any more (`publishWithin_add`).

So `publish`, which gives the recursion one level for each sender and one more, has the result
of the unbounded recursion (`publish_eq_broadcast`): a publish from a sender in flight is dropped,
and any other is a broadcast over the subscribers registered when it starts, with nested
publishes carried out in full. Every publish, dropped or not, leaves the senders in flight as it
found them (`publishWithin_restores`).

The senders in flight are a sorted list, and the subscribers that can be registered are those of
a family `P` closed under the handlers' registrations (`Broker.WellFormed`).
-/

namespace RouteLease

variable {σ ω : Type}

/-- A call back into the broker stays within a family of subscribers and a list of senders: a
publish is made as one of the senders, and a registered subscriber is of the family. -/
def Reaction.Within (P : σ → Prop) (S : List SenderId) : Reaction σ ω → Prop
  | .publish sender _ _ => sender ∈ S
  | .subscribe x => P x

/-- The handlers of a family of subscribers publish only as the dispatch's senders and register
only subscribers of the family. -/
def Dispatch.Closed (d : Dispatch σ ω) (P : σ → Prop) : Prop :=
  ∀ i x m w, P x → ∀ r ∈ (d.handle i x m w).2, r.Within P d.senders

/-- The recorders' handlers publish only as the forwarding identities of the initial recorders,
for every recorder that forwards as one of them; the recorders they attach never forward. -/
theorem Recorder.dispatch_closed (initial : List Recorder) :
    (Recorder.dispatch initial).Closed
      fun x => ∀ s ∈ x.forwardIds, s ∈ initial.flatMap Recorder.forwardIds := by
  intro i x m w hx r hr
  cases x with
  | latch => simp [Recorder.dispatch, Recorder.handle] at hr
  | log kinds forwardAs attach =>
    simp only [Recorder.dispatch, Recorder.handle, List.mem_append, List.mem_map,
      Option.mem_toList] at hr
    rcases hr with ⟨s, hs, rfl⟩ | ⟨ks, -, rfl⟩
    · exact hx s (by simp [Recorder.forwardIds, hs])
    · intro s hs
      simp [Recorder.forwardIds] at hs

/-- The senders that can still start a broadcast below a publish as `sender` while `inFlight`
are in flight: those of the dispatch and `sender` itself, less those in flight. -/
def Dispatch.idleSenders (d : Dispatch σ ω) (sender : SenderId) (inFlight : List SenderId) :
    Finset SenderId :=
  insert sender d.senders.toFinset \ inFlight.toFinset

/-- A set's list with an element inserted has that element added to its elements. -/
theorem SortedSet.toFinset_insert (a : SenderId) (l : List SenderId) :
    (SortedSet.insert a l).toFinset = Insert.insert a l.toFinset := by
  ext x
  simp [SortedSet.mem_insert]

namespace Dispatch

/-- A nested broadcast has one idle sender fewer: its own sender is in flight, and the sender it
publishes as is one of the dispatch's. -/
theorem card_idleSenders_nested (d : Dispatch σ ω) {sender s' : SenderId} {inFlight : List SenderId}
    (hs : sender ∉ inFlight) (hs' : s' ∈ d.senders) :
    (d.idleSenders s' (SortedSet.insert sender inFlight)).card + 1 =
      (d.idleSenders sender inFlight).card := by
  have hmem : sender ∈ d.idleSenders sender inFlight := by
    simp [Dispatch.idleSenders, hs]
  have herase : d.idleSenders s' (SortedSet.insert sender inFlight) =
      (d.idleSenders sender inFlight).erase sender := by
    ext x
    simp only [Dispatch.idleSenders, SortedSet.toFinset_insert, Finset.mem_sdiff, Finset.mem_insert,
      List.mem_toFinset, Finset.mem_erase, not_or]
    constructor
    · rintro ⟨rfl | hx, hnot⟩
      · exact ⟨hnot.1, .inr hs', hnot.2⟩
      · exact ⟨hnot.1, .inr hx, hnot.2⟩
    · rintro ⟨hne, rfl | hx, hnot⟩
      · exact absurd rfl hne
      · exact ⟨.inr hx, hne, hnot⟩
  rw [herase, Finset.card_erase_add_one hmem]

/-- The idle senders are at most those of the dispatch and the sender, which `publish` gives room
for. -/
theorem card_idleSenders_le (d : Dispatch σ ω) (sender : SenderId) (inFlight : List SenderId) :
    (d.idleSenders sender inFlight).card ≤ (insert sender d.senders.toFinset).card :=
  Finset.card_le_card Finset.sdiff_subset

/-- The dispatch's senders and the sender are fewer than the depth bound. -/
theorem card_insert_le_depthBound (d : Dispatch σ ω) (sender : SenderId) :
    (insert sender d.senders.toFinset).card ≤ Broker.depthBound d sender := by
  have h := List.toFinset_card_le (SortedSet.insert sender d.senders)
  rw [SortedSet.toFinset_insert] at h
  unfold Broker.depthBound
  omega

end Dispatch

namespace Broker

/-- The senders in flight form a sorted list, and the subscribers are of the family `P`. -/
structure WellFormed (P : σ → Prop) (b : Broker σ) : Prop where
  inFlight : SortedSet.Sorted b.inFlight
  subscribers : ∀ x ∈ b.subscribers, P x

/-- A way of carrying out nested publishes that gives back the senders in flight and keeps the
broker well formed. -/
def Restores (P : σ → Prop) (pub : SenderId → Message → Broker σ × ω → (Broker σ × ω) × Nat) :
    Prop :=
  ∀ sender m s, s.1.WellFormed P →
    (pub sender m s).1.1.inFlight = s.1.inFlight ∧ (pub sender m s).1.1.WellFormed P

/-! ## The senders in flight come back -/

section Restore

variable {P : σ → Prop} {pub : SenderId → Message → Broker σ × ω → (Broker σ × ω) × Nat}

/-- A reaction of the family gives back the senders in flight and keeps the broker well formed, when
nested publishes do. -/
theorem react_restores (hp : Restores P pub) {S : List SenderId} {s : Broker σ × ω}
    (hs : s.1.WellFormed P) {r : Reaction σ ω} (hr : r.Within P S) :
    (react pub s r).1.inFlight = s.1.inFlight ∧ (react pub s r).1.WellFormed P := by
  cases r with
  | publish sender m after => exact hp sender m s hs
  | subscribe x =>
    refine ⟨rfl, hs.inFlight, ?_⟩
    intro y hy
    rcases List.mem_append.1 hy with hy | hy
    · exact hs.subscribers y hy
    · rw [List.mem_singleton.1 hy]
      exact hr

/-- Reactions of the family, one after the other, give back the senders in flight and keep the
broker well formed, when nested publishes do. -/
theorem foldl_react_restores (hp : Restores P pub) {S : List SenderId} {calls : List (Reaction σ ω)}
    (hc : ∀ r ∈ calls, r.Within P S) (s : Broker σ × ω) (hs : s.1.WellFormed P) :
    (calls.foldl (react pub) s).1.inFlight = s.1.inFlight ∧
      (calls.foldl (react pub) s).1.WellFormed P := by
  induction calls generalizing s with
  | nil => exact ⟨rfl, hs⟩
  | cons r rs ih =>
    obtain ⟨hin, hw⟩ := react_restores hp hs (hc r List.mem_cons_self)
    obtain ⟨hin', hw'⟩ := ih (fun r' hr' => hc r' (List.mem_cons_of_mem r hr')) _ hw
    exact ⟨hin'.trans hin, hw'⟩

/-- Delivering to a subscriber of the family gives back the senders in flight and keeps the broker
well formed, when nested publishes do. -/
theorem deliver_restores {d : Dispatch σ ω} (hd : d.Closed P) (hp : Restores P pub) (m : Message)
    {acc : (Broker σ × ω) × Nat} (hs : acc.1.1.WellFormed P) {e : σ × Nat} (he : P e.1) :
    (deliver d pub m acc e).1.1.inFlight = acc.1.1.inFlight ∧
      (deliver d pub m acc e).1.1.WellFormed P := by
  obtain ⟨⟨b, w⟩, n⟩ := acc
  obtain ⟨x, i⟩ := e
  simp only [deliver]
  split
  · -- the subscriber takes the message: its calls are of the family's kind
    exact foldl_react_restores hp (hd i x m w he) (b, (d.handle i x m w).1) hs
  · exact ⟨rfl, hs⟩

/-- Delivering to subscribers of the family, one after the other, gives back the senders in flight
and keeps the broker well formed, when nested publishes do. -/
theorem foldl_deliver_restores {d : Dispatch σ ω} (hd : d.Closed P) (hp : Restores P pub)
    (m : Message) {entries : List (σ × Nat)} (he : ∀ e ∈ entries, P e.1)
    (acc : (Broker σ × ω) × Nat) (hs : acc.1.1.WellFormed P) :
    (entries.foldl (deliver d pub m) acc).1.1.inFlight = acc.1.1.inFlight ∧
      (entries.foldl (deliver d pub m) acc).1.1.WellFormed P := by
  induction entries generalizing acc with
  | nil => exact ⟨rfl, hs⟩
  | cons e es ih =>
    obtain ⟨hin, hw⟩ := deliver_restores hd hp m hs (he e List.mem_cons_self)
    obtain ⟨hin', hw'⟩ := ih (fun e' he' => he e' (List.mem_cons_of_mem e he')) _ hw
    exact ⟨hin'.trans hin, hw'⟩

/-- A broadcast from a sender not in flight marks it for the nested publishes and removes the
mark at the end, so the senders in flight come back as they were. -/
theorem broadcast_restores {d : Dispatch σ ω} (hd : d.Closed P) (hp : Restores P pub)
    {sender : SenderId} (m : Message) {b : Broker σ} (w : ω) (hb : b.WellFormed P)
    (hs : sender ∉ b.inFlight) :
    (broadcast d pub sender m (b, w)).1.1.inFlight = b.inFlight ∧
      (broadcast d pub sender m (b, w)).1.1.WellFormed P := by
  have hsnap : ∀ e ∈ b.subscribers.zipIdx, P e.1 :=
    fun e he => hb.subscribers e.1 (List.fst_mem_of_mem_zipIdx he)
  obtain ⟨hin, hw⟩ := foldl_deliver_restores hd hp m hsnap
    (({ b with inFlight := SortedSet.insert sender b.inFlight }, w), 0)
    ⟨hb.inFlight.insert sender, hb.subscribers⟩
  simp only [broadcast]
  generalize List.foldl (deliver d pub m) _ b.subscribers.zipIdx = r at hin hw
  obtain ⟨⟨b', w'⟩, n⟩ := r
  have hb' : b'.inFlight = SortedSet.insert sender b.inFlight := hin
  have hrestored : SortedSet.erase sender b'.inFlight = b.inFlight := by
    rw [hb', SortedSet.erase_insert_of_not_mem hs]
  exact ⟨hrestored, hrestored ▸ hb.inFlight, hw.subscribers⟩

/-- Every publish, whatever its room, gives back the senders in flight as it found them. -/
theorem publishWithin_restores {d : Dispatch σ ω} (hd : d.Closed P) (depth : Nat) :
    Restores P (publishWithin d depth) := by
  induction depth with
  | zero => exact fun _ _ _ hs => ⟨rfl, hs⟩
  | succ depth ih =>
    rintro sender m ⟨b, w⟩ hb
    simp only [publishWithin]
    split
    · exact ⟨rfl, hb⟩
    · rename_i hc
      exact broadcast_restores hd ih m w hb (mt (SortedSet.contains_iff_mem hb.inFlight).2 hc)

end Restore

/-! ## Room enough for the recursion -/

section Room

variable {P : σ → Prop} {pub pub' : SenderId → Message → Broker σ × ω → (Broker σ × ω) × Nat}
  {d : Dispatch σ ω}

/-- Two ways of carrying out nested publishes that agree on the dispatch's senders, from brokers
with `J` in flight, carry out a handler's calls alike. -/
theorem foldl_react_congr (hp : Restores P pub) {J : List SenderId}
    (heq : ∀ sender ∈ d.senders, ∀ m s, s.1.inFlight = J → s.1.WellFormed P →
      pub sender m s = pub' sender m s)
    {calls : List (Reaction σ ω)} (hc : ∀ r ∈ calls, r.Within P d.senders) (s : Broker σ × ω)
    (hJ : s.1.inFlight = J) (hs : s.1.WellFormed P) :
    calls.foldl (react pub) s = calls.foldl (react pub') s := by
  induction calls generalizing s with
  | nil => rfl
  | cons r rs ih =>
    have hr := hc r List.mem_cons_self
    have hstep : react pub s r = react pub' s r := by
      cases r with
      | publish sender m after => simp only [react, heq sender hr m s hJ hs]
      | subscribe x => rfl
    obtain ⟨hin, hw⟩ := react_restores hp hs hr
    rw [List.foldl_cons, List.foldl_cons, hstep]
    exact ih (fun r' hr' => hc r' (List.mem_cons_of_mem r hr')) _ (hstep ▸ hin.trans hJ)
      (hstep ▸ hw)

/-- Delivering to subscribers of the family does the same under two ways of nesting publishes that
agree on the dispatch's senders from the same senders in flight. -/
theorem foldl_deliver_congr (hd : d.Closed P) (hp : Restores P pub) {J : List SenderId}
    (heq : ∀ sender ∈ d.senders, ∀ m s, s.1.inFlight = J → s.1.WellFormed P →
      pub sender m s = pub' sender m s)
    (m : Message) {entries : List (σ × Nat)} (he : ∀ e ∈ entries, P e.1)
    (acc : (Broker σ × ω) × Nat) (hJ : acc.1.1.inFlight = J) (hs : acc.1.1.WellFormed P) :
    entries.foldl (deliver d pub m) acc = entries.foldl (deliver d pub' m) acc := by
  induction entries generalizing acc with
  | nil => rfl
  | cons e es ih =>
    have hstep : deliver d pub m acc e = deliver d pub' m acc e := by
      obtain ⟨⟨b, w⟩, n⟩ := acc
      obtain ⟨x, i⟩ := e
      simp only [deliver]
      split
      · rw [foldl_react_congr hp heq (hd i x m w (he _ List.mem_cons_self))
          (b, (d.handle i x m w).1) hJ hs]
      · rfl
    obtain ⟨hin, hw⟩ := deliver_restores hd hp m hs (he e List.mem_cons_self)
    rw [List.foldl_cons, List.foldl_cons, hstep]
    exact ih (fun e' he' => he e' (List.mem_cons_of_mem e he')) _ (hstep ▸ hin.trans hJ)
      (hstep ▸ hw)

/-- Two ways of carrying out nested publishes that agree on the dispatch's senders once `sender`
is marked in flight broadcast alike. -/
theorem broadcast_congr (hd : d.Closed P) (hp : Restores P pub) {sender : SenderId} {b : Broker σ}
    (hb : b.WellFormed P)
    (heq : ∀ s' ∈ d.senders, ∀ m s, s.1.inFlight = SortedSet.insert sender b.inFlight →
      s.1.WellFormed P → pub s' m s = pub' s' m s)
    (m : Message) (w : ω) :
    broadcast d pub sender m (b, w) = broadcast d pub' sender m (b, w) := by
  have hsnap : ∀ e ∈ b.subscribers.zipIdx, P e.1 :=
    fun e he => hb.subscribers e.1 (List.fst_mem_of_mem_zipIdx he)
  simp only [broadcast]
  rw [foldl_deliver_congr hd hp heq m hsnap
    (({ b with inFlight := SortedSet.insert sender b.inFlight }, w), 0) rfl
    ⟨hb.inFlight.insert sender, hb.subscribers⟩]

/-- With room for as many nested broadcasts as there are idle senders, more room changes
nothing. -/
theorem publishWithin_add (hd : d.Closed P) (depth extra : Nat) (sender : SenderId) (m : Message)
    (s : Broker σ × ω) (hs : s.1.WellFormed P)
    (hroom : (d.idleSenders sender s.1.inFlight).card ≤ depth) :
    publishWithin d (depth + extra) sender m s = publishWithin d depth sender m s := by
  induction depth generalizing sender m s with
  | zero =>
    -- no idle sender: `sender` itself is in flight, and the publish is dropped at any room
    obtain ⟨b, w⟩ := s
    dsimp only at hs hroom
    have hin : sender ∈ b.inFlight := by
      by_contra hnot
      have : sender ∈ d.idleSenders sender b.inFlight := by simp [Dispatch.idleSenders, hnot]
      exact absurd (Finset.card_pos.2 ⟨_, this⟩) (by omega)
    cases extra with
    | zero => rfl
    | succ extra =>
      simp [publishWithin, (SortedSet.contains_iff_mem hs.inFlight).2 hin]
  | succ depth ih =>
    obtain ⟨b, w⟩ := s
    dsimp only at hs hroom
    rw [show depth + 1 + extra = depth + extra + 1 by omega]
    simp only [publishWithin]
    split
    · rfl
    · rename_i hc
      have hnot : sender ∉ b.inFlight := mt (SortedSet.contains_iff_mem hs.inFlight).2 hc
      -- the nested publishes run with `sender` in flight, one idle sender fewer
      apply broadcast_congr hd (publishWithin_restores hd _) hs
      intro s' hs' m' st hJ hst
      refine ih s' m' st hst ?_
      have := d.card_idleSenders_nested hnot hs'
      rw [hJ]
      omega

/-- Any two rooms at least the count of idle senders give the same publish. -/
theorem publishWithin_eq_of_le (hd : d.Closed P) {sender : SenderId} {m : Message}
    (s : Broker σ × ω) (hs : s.1.WellFormed P) {depth depth' : Nat}
    (h : (d.idleSenders sender s.1.inFlight).card ≤ depth)
    (h' : (d.idleSenders sender s.1.inFlight).card ≤ depth') :
    publishWithin d depth sender m s = publishWithin d depth' sender m s := by
  rcases Nat.le_total depth depth' with hle | hle
  · obtain ⟨k, rfl⟩ := Nat.exists_eq_add_of_le hle
    exact (publishWithin_add hd depth k sender m s hs h).symm
  · obtain ⟨k, rfl⟩ := Nat.exists_eq_add_of_le hle
    exact publishWithin_add hd depth' k sender m s hs h'

/-- With room for every idle sender, a publish has the result of `publish`. -/
theorem publishWithin_eq_publish (hd : d.Closed P) {b : Broker σ} (hb : b.WellFormed P)
    {sender : SenderId} {depth : Nat} (h : (d.idleSenders sender b.inFlight).card ≤ depth)
    (m : Message) (w : ω) :
    publishWithin d depth sender m (b, w) = publish d sender m b w :=
  publishWithin_eq_of_le hd (b, w) hb h
    ((d.card_idleSenders_le sender b.inFlight).trans (d.card_insert_le_depthBound sender))

/-- `publish` is the unbounded recursion: a publish from a sender in flight is dropped, and any
other is broadcast with its nested publishes carried out by `publish` itself. -/
theorem publish_eq_broadcast (hd : d.Closed P) {b : Broker σ} (hb : b.WellFormed P)
    (sender : SenderId) (m : Message) (w : ω) :
    publish d sender m b w =
      if sender ∈ b.inFlight then ((b, w), 0)
      else broadcast d (fun s' m' s => publish d s' m' s.1 s.2) sender m (b, w) := by
  have hroom := (d.card_idleSenders_le sender b.inFlight).trans
    (d.card_insert_le_depthBound sender)
  unfold publish
  generalize hdepth : depthBound d sender = depth at hroom
  obtain ⟨depth, rfl⟩ : ∃ k, depth = k + 1 := ⟨depth - 1, by unfold depthBound at hdepth; omega⟩
  simp only [publishWithin]
  by_cases hin : sender ∈ b.inFlight
  · simp [(SortedSet.contains_iff_mem hb.inFlight).2 hin, hin]
  · have hc : SortedSet.contains sender b.inFlight = false :=
      Bool.eq_false_iff.2 (mt (SortedSet.contains_iff_mem hb.inFlight).1 hin)
    simp only [hc, hin, Bool.false_eq_true, if_false]
    apply broadcast_congr hd (publishWithin_restores hd _) hb
    rintro s' hs' m' ⟨b', w'⟩ hJ hb'
    apply publishWithin_eq_publish hd hb'
    have := d.card_idleSenders_nested hin hs'
    simp only at hJ
    rw [hJ]
    omega

/-- Publishing terminates, with one level of room for each sender of the dispatch and the
publisher: any room at least that large gives the result of `publish`, so no more broadcasts than
that are ever nested. The senders in flight come back as they were; a publish from a sender in
flight is dropped and delivers nothing; any other is a broadcast over a snapshot of the
subscribers registered when it starts, handing the message in registration order to each one
ready for its kind and counting them, with nested publishes carried out in full. -/
theorem publish_recursion_bounded (hd : d.Closed P) {b : Broker σ} (hb : b.WellFormed P)
    (sender : SenderId) (m : Message) (w : ω) :
    (∀ depth, (insert sender d.senders.toFinset).card ≤ depth →
      publishWithin d depth sender m (b, w) = publish d sender m b w) ∧
    (publish d sender m b w).1.1.inFlight = b.inFlight ∧
    publish d sender m b w =
      if sender ∈ b.inFlight then ((b, w), 0)
      else broadcast d (fun s' m' s => publish d s' m' s.1 s.2) sender m (b, w) :=
  ⟨fun _ h =>
    publishWithin_eq_publish hd hb ((d.card_idleSenders_le sender b.inFlight).trans h) m w,
    (publishWithin_restores hd _ sender m (b, w) hb).1, publish_eq_broadcast hd hb sender m w⟩

/-- A recorder that forwards every message as sender 1, on a publish as sender 0: room for two
nested broadcasts is enough, and the senders in flight come back empty. -/
theorem publish_recursion_bounded_echo :
    let d := Recorder.dispatch [.log none (some 1) none]
    let b : Broker Recorder := { subscribers := [.log none (some 1) none] }
    (∀ depth, (insert 0 d.senders.toFinset).card ≤ depth →
      publishWithin d depth 0 (.shutdown 0) (b, {}) = publish d 0 (.shutdown 0) b {}) ∧
    (publish d 0 (.shutdown 0) b {}).1.1.inFlight = b.inFlight ∧
    publish d 0 (.shutdown 0) b {} =
      if 0 ∈ b.inFlight then ((b, {}), 0)
      else broadcast d (fun s' m' s => publish d s' m' s.1 s.2) 0 (.shutdown 0) (b, {}) :=
  publish_recursion_bounded (Recorder.dispatch_closed _)
    ⟨SortedSet.sorted_nil, by simp [Recorder.forwardIds]⟩ 0 (.shutdown 0) {}

end Room

end Broker

end RouteLease
