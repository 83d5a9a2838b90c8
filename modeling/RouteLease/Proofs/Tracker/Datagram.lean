import RouteLease.Tracker

/-!
# Handling a datagram

The tracker handles the items of a received datagram in order and stops at the first item that
ends a datagram: a malformed message, the end of a dump, or an error report that is not an
acknowledgement (`stopsAt`). `handleItems_folds_until_stop` says what handling leaves, in terms of
`TrackedInterface.apply` alone:

* the items before the stop are all notifications, and folding `apply` over them, collecting the
  messages it returns, gives the final state and the published messages (`applyLogged`);
* the result is the kernel's error exactly when the stop is an error report, and success
  otherwise, also when a malformed message or the end of the datagram stopped it;
* acknowledgements change nothing: handling the items without them leaves the same outcome.

`handleDatagram_folds_until_stop` is the same for the items of a received datagram.
-/

namespace RouteLease

open Wire

namespace TrackedInterface

/-- Whether handling a datagram stops at an item: a malformed message, the end of a dump, or an
error report with a nonzero number. -/
def stopsAt : Except CodecError KernelEvent → Bool
  | .error _ => true
  | .ok .done => true
  | .ok (.error errno) => errno != 0
  | .ok _ => false

/-- Whether an item is an acknowledgement: an error report with number zero. -/
def isAck : Except CodecError KernelEvent → Bool
  | .ok (.error errno) => errno == 0
  | _ => false

/-- One notification applied to a state and the messages published so far: the next state, and
the message it returns appended; a kernel error fails. -/
def applyLogged (metric : UInt32) (acc : TrackedInterface × List Message) (ev : KernelEvent) :
    Except DaemonError (TrackedInterface × List Message) :=
  (acc.1.apply metric ev).map fun r => (r.1, acc.2 ++ r.2.toList)

/-- What handling ends with, read from the item it stopped at: the kernel's error for an error
report, success for anything else and for running out of items. -/
def resultAt : Option (Except CodecError KernelEvent) → Except DaemonError Unit
  | some (.ok (.error errno)) => .error (.kernel errno)
  | _ => .ok ()

/-! ## One notification -/

/-- An acknowledgement changes nothing and publishes nothing. -/
theorem apply_ack (t : TrackedInterface) (metric : UInt32) :
    t.apply metric (.error 0) = .ok (t, none) := by
  simp [apply]

/-- An item that does not stop handling is a notification. -/
theorem eq_ok_of_not_stopsAt {item : Except CodecError KernelEvent} (h : stopsAt item = false) :
    ∃ ev, item = .ok ev := by
  rcases item with e | ev
  · simp [stopsAt] at h
  · exact ⟨ev, rfl⟩

/-- A notification that does not stop handling never fails. -/
theorem apply_eq_ok_of_not_stopsAt {ev : KernelEvent} (h : stopsAt (.ok ev) = false)
    (t : TrackedInterface) (metric : UInt32) : ∃ r, t.apply metric ev = .ok r := by
  cases ev with
  | error errno =>
    have h0 : errno = 0 := by simpa [stopsAt] using h
    exact ⟨_, h0 ▸ apply_ack t metric⟩
  | done => simp [stopsAt] at h
  | link e | address e | route e | other e => exact ⟨_, rfl⟩

/-! ## The fold -/

/-- The messages published before a fold are kept in front of those it publishes. -/
theorem foldlM_applyLogged (metric : UInt32) (evs : List KernelEvent) (t : TrackedInterface)
    (pre : List Message) :
    evs.foldlM (applyLogged metric) (t, pre) =
      (evs.foldlM (applyLogged metric) (t, [])).map fun r => (r.1, pre ++ r.2) := by
  induction evs generalizing t pre with
  | nil => simp [pure, Except.pure, Except.map]
  | cons ev evs ih =>
    simp only [List.foldlM_cons, applyLogged]
    cases t.apply metric ev with
    | error e => rfl
    | ok r =>
      simp only [Except.map, bind, Except.bind]
      rw [ih r.1 (pre ++ r.2.toList), ih r.1 ([] ++ r.2.toList)]
      cases evs.foldlM (applyLogged metric) (r.1, []) <;> simp [Except.map]

/-! ## Handling a list of items -/

/-- An item that stops the handling leaves the tracker as it is, publishes nothing, and decides the
result. -/
theorem handleItems_stop {item : Except CodecError KernelEvent} (h : stopsAt item = true)
    (t : TrackedInterface) (metric : UInt32) (rest : List (Except CodecError KernelEvent)) :
    t.handleItems metric (item :: rest) = ⟨t, [], resultAt (some item)⟩ := by
  rcases item with e | ev
  · rfl
  · cases ev with
    | done => rfl
    | error errno =>
      have h0 : errno ≠ 0 := by simpa [stopsAt] using h
      simp [handleItems, apply, h0, resultAt]
    | link e | address e | route e | other e => simp [stopsAt] at h

/-- A notification that does not stop the handling is applied, its message published before those of
the rest. -/
theorem handleItems_go {ev : KernelEvent} (h : stopsAt (.ok ev) = false) {t t' : TrackedInterface}
    {metric : UInt32} {m : Option Message} (happ : t.apply metric ev = .ok (t', m))
    (rest : List (Except CodecError KernelEvent)) :
    t.handleItems metric (.ok ev :: rest) =
      { t'.handleItems metric rest with
        published := m.toList ++ (t'.handleItems metric rest).published } := by
  cases ev with
  | done => simp [stopsAt] at h
  | error errno | link errno | address errno | route errno | other errno =>
    simp only [handleItems, happ]

/-- Handling items handles exactly those before the first that stops it: they are notifications,
folding `apply` over them gives the final state and the published messages, and the item it
stopped at decides the result. -/
theorem handleItems_folds_until_stop (t : TrackedInterface) (metric : UInt32)
    (items : List (Except CodecError KernelEvent)) :
    ∃ evs : List KernelEvent, items.take (items.findIdx stopsAt) = evs.map .ok ∧
      evs.foldlM (applyLogged metric) (t, []) =
        .ok ((t.handleItems metric items).state, (t.handleItems metric items).published) ∧
      (t.handleItems metric items).result = resultAt items[items.findIdx stopsAt]? := by
  induction items generalizing t with
  | nil => exact ⟨[], rfl, rfl, rfl⟩
  | cons item rest ih =>
    cases hs : stopsAt item with
    | true =>
      refine ⟨[], ?_, ?_, ?_⟩ <;>
        simp [List.findIdx_cons, hs, handleItems_stop hs, pure, Except.pure]
    | false =>
      -- an item that does not stop is a notification that `apply` takes without error
      obtain ⟨ev, rfl⟩ := eq_ok_of_not_stopsAt hs
      obtain ⟨⟨t', m⟩, happ⟩ := apply_eq_ok_of_not_stopsAt hs t metric
      obtain ⟨evs, htake, hfold, hres⟩ := ih t'
      refine ⟨ev :: evs, ?_, ?_, ?_⟩
      · simp [List.findIdx_cons, hs, htake]
      · rw [handleItems_go hs happ, List.foldlM_cons]
        simp only [applyLogged, happ, Except.map, bind, Except.bind, List.nil_append]
        rw [foldlM_applyLogged, hfold]
        rfl
      · rw [handleItems_go hs happ]
        simpa [List.findIdx_cons, hs] using hres

/-- Acknowledgements are skipped: handling the items without them leaves the same outcome. -/
theorem handleItems_filter_ack (t : TrackedInterface) (metric : UInt32)
    (items : List (Except CodecError KernelEvent)) :
    t.handleItems metric (items.filter fun i => !isAck i) = t.handleItems metric items := by
  induction items generalizing t with
  | nil => rfl
  | cons item rest ih =>
    cases hack : isAck item with
    | true =>
      -- an acknowledgement is applied as a notification that changes nothing
      obtain ⟨errno, rfl⟩ : ∃ errno, item = .ok (.error errno) := by
        rcases item with e | (_ | _ | _ | _ | errno | _) <;> simp_all [isAck]
      have h0 : errno = 0 := by simpa [isAck] using hack
      subst h0
      rw [List.filter_cons_of_neg (by simp [isAck]), ih,
        handleItems_go (by rfl) (apply_ack t metric)]
      rfl
    | false =>
      rw [List.filter_cons_of_pos (by simp [hack])]
      cases hs : stopsAt item with
      | true => rw [handleItems_stop hs, handleItems_stop hs]
      | false =>
        obtain ⟨ev, rfl⟩ := eq_ok_of_not_stopsAt hs
        obtain ⟨⟨t', m⟩, happ⟩ := apply_eq_ok_of_not_stopsAt hs t metric
        rw [handleItems_go hs happ, handleItems_go hs happ, ih]

/-- Handling a received datagram, for every state and every octet string: the items of the
datagram before the first that stops handling (a malformed message, the end of a dump, or an
error report other than an acknowledgement) are notifications; folding `apply` over them, in
order, gives the final state and exactly the published messages; the result is the kernel's error
when handling stopped at an error report and success otherwise; and acknowledgements change
nothing. -/
theorem handleDatagram_folds_until_stop (t : TrackedInterface) (metric : UInt32)
    (datagram : List UInt8) :
    (∃ evs : List KernelEvent,
      (parseDatagram datagram).take ((parseDatagram datagram).findIdx stopsAt) = evs.map .ok ∧
      evs.foldlM (applyLogged metric) (t, []) =
        .ok ((t.handleDatagram metric datagram).state,
          (t.handleDatagram metric datagram).published) ∧
      (t.handleDatagram metric datagram).result =
        resultAt (parseDatagram datagram)[(parseDatagram datagram).findIdx stopsAt]?) ∧
    t.handleItems metric ((parseDatagram datagram).filter fun i => !isAck i) =
      t.handleDatagram metric datagram :=
  ⟨handleItems_folds_until_stop t metric _, handleItems_filter_ack t metric _⟩

end TrackedInterface

end RouteLease
