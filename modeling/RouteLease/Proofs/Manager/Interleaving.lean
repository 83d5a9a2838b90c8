import Mathlib.Data.List.Permutation
import RouteLease.Proofs.RouteTable.Slot
import RouteLease.Proofs.Manager.Expiration

/-!
# Requests and confirmations in any order

DNS answers and the kernel's confirmations reach the manager from different threads, so their
order is not fixed. This file shows that the order does not matter for the table.

On the table, a request and a confirmation or report for the same destination commute, with one
exception; requests repeated for a destination merge into the latest one; and any two operations
on different destinations commute (`RouteTable.request_algebra`). The proofs go through the slots
of `Proofs/RouteTable/Slot`.

On the manager, every operation other than a tick changes only the slot of its own destination
(`slot_apply`), so after a run without ticks the slot of a destination is its own operations' rules
applied in order (`slot_run`). For one answer and one confirmation per destination, read from a
clock that never goes back, the one exceptional order cannot arise: a confirmation that comes
first tracks the destination until the clock reading plus the grace period, which the later
answer's expiration reaches. So every interleaving leaves each destination active at its
answer's expiration and no longer pending (`active_after_any_interleaving`).
-/

namespace RouteLease

/-! ## Operations on one destination -/

namespace ManagerOp

/-- The destination an operation is about, if any. -/
def dest? : ManagerOp → Option IpAddress
  | .insert _ d _ => some d
  | .confirmAdd _ d => some d
  | .confirmDel d => some d
  | _ => none

/-- The clock reading an operation is taken at, if any. -/
def clock? : ManagerOp → Option Nat
  | .insert now _ _ => some now
  | .confirmAdd now _ => some now
  | .tick now => some now
  | _ => none

/-- Whether an operation is a management tick. -/
def isTick : ManagerOp → Bool
  | .tick _ => true
  | _ => false

/-- What an operation other than a tick does to the slot of its destination under the settings
`s`: an answer for a valid destination requests it until the clock reading plus its time to live
and the grace period, a confirmation tracks it with the clock reading plus the grace period as the
fallback, and a report of removal re-arms it. -/
def slotRule (s : RouteSettings) : ManagerOp → Slot → Slot
  | .insert now d ttl =>
    if d.isValid then Slot.request (saturatingAdd (saturatingAdd now ttl) s.extraTtl) else id
  | .confirmAdd now _ => Slot.confirmAdd (saturatingAdd now s.extraTtl)
  | .confirmDel _ => Slot.confirmDel
  | _ => id

/-- An operation about a destination is not a tick. -/
theorem isTick_eq_false_of_dest? {o : ManagerOp} {d : IpAddress} (h : o.dest? = some d) :
    o.isTick = false := by
  cases o with
  | tick now => simp [dest?] at h
  | _ => rfl

end ManagerOp

namespace RoutingManager

variable {m : RoutingManager}

/-- An operation other than a tick changes the slot of its own destination by its rule, and no
other slot. -/
theorem slot_apply (hv : m.table.Valid) {o : ManagerOp} (ho : o.isTick = false) (x : IpAddress) :
    (m.apply o).table.slot x =
      if o.dest? = some x then o.slotRule m.settings (m.table.slot x) else m.table.slot x := by
  cases o with
  | attach ifindex => rfl
  | insert now d ttl =>
    rw [apply, table_insert]
    by_cases hd : d.isValid
    · simp only [hd, if_true, RouteTable.slot_request, Function.update_apply,
        ManagerOp.dest?, ManagerOp.slotRule, Option.some.injEq]
      by_cases hx : x = d
      · subst hx
        simp
      · simp [hx, Ne.symm hx]
    · -- an answer for an invalid destination changes nothing
      simp only [hd, Bool.false_eq_true, if_false, ManagerOp.slotRule, id]
      split <;> rfl
  | confirmAdd now d =>
    show (m.table.confirmAdd d _).1.slot x = _
    rw [hv.slot_confirmAdd, Function.update_apply]
    by_cases hx : x = d
    · subst hx
      simp [ManagerOp.dest?, ManagerOp.slotRule]
    · simp [hx, Ne.symm hx, ManagerOp.dest?]
  | confirmDel d =>
    show (m.table.confirmDel d).1.slot x = _
    rw [hv.slot_confirmDel, Function.update_apply]
    by_cases hx : x = d
    · subst hx
      simp [ManagerOp.dest?, ManagerOp.slotRule]
    · simp [hx, Ne.symm hx, ManagerOp.dest?]
  | netdevUpdate lookup config => simp [apply, netdevUpdate, ManagerOp.dest?]
  | tick now => simp [ManagerOp.isTick] at ho

/-- After a run without ticks, the slot of a destination is the rules of the operations on it
applied in order. -/
theorem slot_run (hv : m.table.Valid) {ops : List ManagerOp} (hops : ∀ o ∈ ops, o.isTick = false)
    (x : IpAddress) :
    (m.run ops).table.slot x =
      (ops.filter (·.dest? == some x)).foldl (fun s o => o.slotRule m.settings s)
        (m.table.slot x) := by
  induction ops generalizing m with
  | nil => rfl
  | cons o ops ih =>
    rw [run_cons, ih (valid_apply hv o) fun o' ho' => hops o' (List.mem_cons_of_mem _ ho'),
      settings_apply, slot_apply hv (hops o List.mem_cons_self), List.filter_cons]
    -- the operation joins the fold exactly when it is about `x`
    by_cases hx : o.dest? = some x <;> simp [hx]

/-! ## One answer and one confirmation per destination -/

/-- A confirmation read no later than an answer falls back to an expiration that the answer's
expiration reaches. -/
theorem fallback_le_expiration {now' now : Nat} (h : now' ≤ now) (ttl extra : Nat) :
    saturatingAdd now' extra ≤ saturatingAdd (saturatingAdd now ttl) extra := by
  unfold saturatingAdd
  omega

/-- Take a run of answers and confirmations in which every destination gets one answer and one
confirmation, in either order, from a clock that never goes back, and starting from a table that
lacks every destination of the run. It leaves each destination that was answered active at its
answer's expiration, and no longer pending. -/
theorem active_after_any_interleaving (hv : m.table.Valid) {ops : List ManagerOp}
    (hone : ∀ o ∈ ops, ∃ now d ttl now', o.dest? = some d ∧
      (ops.filter (·.dest? == some d)).Perm [.insert now d ttl, .confirmAdd now' d])
    (hclock : ops.Pairwise fun o o' => ∀ a ∈ o.clock?, ∀ b ∈ o'.clock?, a ≤ b)
    (habsent : ∀ o ∈ ops, ∀ d, o.dest? = some d → m.table.slot d = .absent)
    {now : Nat} {d : IpAddress} {ttl : Nat} (hmem : .insert now d ttl ∈ ops)
    (hd : d.isValid = true) :
    (m.run ops).table.slot d = .active (saturatingAdd (saturatingAdd now ttl) m.settings.extraTtl) := by
  -- every operation of the run is about a destination, so none is a tick
  have hticks : ∀ o ∈ ops, o.isTick = false := by
    intro o ho
    obtain ⟨_, _, _, _, hdest, -⟩ := hone o ho
    exact ManagerOp.isTick_eq_false_of_dest? hdest
  -- the operations on `d` are its answer and one confirmation, in one of the two orders
  obtain ⟨now₁, d₁, ttl₁, now', hd₁, hperm⟩ := hone _ hmem
  obtain rfl : d = d₁ := by simpa [ManagerOp.dest?] using hd₁
  have hin : ManagerOp.insert now d ttl ∈ ops.filter (·.dest? == some d) :=
    List.mem_filter.2 ⟨hmem, by simp [ManagerOp.dest?]⟩
  have hpair : ops.filter (·.dest? == some d) = [.insert now d ttl, .confirmAdd now' d] ∨
      ops.filter (·.dest? == some d) = [.confirmAdd now' d, .insert now d ttl] := by
    rcases List.perm_pair.1 hperm with hf | hf <;> rw [hf] at hin <;>
      simp only [List.mem_cons, ManagerOp.insert.injEq, reduceCtorEq, List.not_mem_nil,
        or_false, false_or] at hin <;> obtain ⟨rfl, -, rfl⟩ := hin
    exacts [.inl hf, .inr hf]
  have horder : (ops.filter (·.dest? == some d)).Pairwise _ := hclock.sublist List.filter_sublist
  rw [RoutingManager.slot_run hv hticks, habsent _ hmem d rfl]
  rcases hpair with hf | hf <;> rw [hf] at horder ⊢
  · -- the answer comes first: the destination is pending, then confirmed
    simp [ManagerOp.slotRule, hd, Slot.request, Slot.confirmAdd]
  · -- the confirmation comes first, read no later than the answer
    have hle : now' ≤ now := by
      simpa [ManagerOp.clock?] using List.rel_of_pairwise_cons horder List.mem_cons_self
    simp [ManagerOp.slotRule, hd, Slot.request, Slot.confirmAdd,
      Nat.max_eq_right (fallback_le_expiration hle ttl m.settings.extraTtl)]

end RoutingManager

/-! ## The algebra of the table's operations -/

namespace RouteTable

/-- The algebra of requests, confirmations and reports of removal on a valid table, whatever the
arguments:

* a request after a request for one destination is one request with the later expiration;
* a request and a report of removal leave the same table in either order;
* a request and a confirmation leave the same table in either order, unless they are for one
  destination that the table lacks and the fallback outlives the request, in which case one order
  leaves it active at the request's expiration and the other at the fallback;
* any two of these operations on different destinations commute;
* so, from a manager with this table, any interleaving of one answer and one confirmation per
  destination, none of them in the table and the clock never going back, leaves each answered
  destination active at its answer's expiration `min (now + ttl + extraTtl) wordMax`, and no longer
  pending.

The last item asks, besides, that the answered destination be a valid address (`d.isValid`). The
informal statement of this algebra leaves that out, but it cannot hold without it: the manager
ignores an answer for an invalid address (`RoutingManager.insert_of_not_isValid`), so such a
destination is never requested, and its confirmation makes it active at the confirmation's
fallback expiration instead of the answer's. -/
theorem request_algebra {t : RouteTable} (hv : t.Valid) :
    (∀ d e e', ((t.request d e).1.request d e').1 = (t.request d (max e e')).1) ∧
    (∀ d d' e, ((t.request d e).1.confirmDel d').1 = ((t.confirmDel d').1.request d e).1) ∧
    (∀ d d' e f, ¬(d = d' ∧ t.activeOf d = none ∧ t.pendingOf d = none ∧ e < f) →
      ((t.request d e).1.confirmAdd d' f).1 = ((t.confirmAdd d' f).1.request d e).1) ∧
    (∀ d e f, t.activeOf d = none → t.pendingOf d = none → e < f →
      ((t.request d e).1.confirmAdd d f).1.activeOf d = some e ∧
        ((t.confirmAdd d f).1.request d e).1.activeOf d = some f) ∧
    (∀ d d' (o o' : EntryOp), d ≠ d' →
      (t.perform d o).perform d' o' = (t.perform d' o').perform d o) ∧
    (∀ m : RoutingManager, m.table = t → ∀ ops : List ManagerOp,
      (∀ o ∈ ops, ∃ now d ttl now', o.dest? = some d ∧
        (ops.filter (·.dest? == some d)).Perm [.insert now d ttl, .confirmAdd now' d]) →
      ops.Pairwise (fun o o' => ∀ a ∈ o.clock?, ∀ b ∈ o'.clock?, a ≤ b) →
      (∀ o ∈ ops, ∀ d, o.dest? = some d → t.activeOf d = none ∧ t.pendingOf d = none) →
      ∀ now d ttl, .insert now d ttl ∈ ops → d.isValid = true →
        (m.run ops).table.activeOf d = some (min (now + ttl + m.settings.extraTtl) wordMax) ∧
          (m.run ops).table.pendingOf d = none) := by
  refine ⟨hv.request_request, hv.request_confirmDel_comm, hv.request_confirmAdd_comm,
    fun d e f ha hp hef => hv.activeOf_request_confirmAdd_of_absent ha hp hef,
    fun d d' o o' hd => hv.perform_comm hd o o', ?_⟩
  rintro m rfl ops hone hclock habsent now d ttl hmem hd
  have hs := RoutingManager.active_after_any_interleaving hv hone hclock
    (fun o ho x hx => (slot_eq_absent_iff _ x).2 (habsent o ho x hx)) hmem hd
  rw [saturatingAdd_saturatingAdd] at hs
  rw [activeOf_eq_active?, hs, (RoutingManager.valid_run hv ops).pendingOf_eq_pending?, hs]
  exact ⟨rfl, rfl⟩

/-- On the empty table, a request until 60 then a confirmation with fallback 90 leave the
destination active until 60, and the other order until 90. -/
theorem request_algebra_confirm_first :
    ((empty.request (.ofV4 192 0 2 1) 60).1.confirmAdd (.ofV4 192 0 2 1) 90).1.activeOf
        (.ofV4 192 0 2 1) = some 60 ∧
      ((empty.confirmAdd (.ofV4 192 0 2 1) 90).1.request (.ofV4 192 0 2 1) 60).1.activeOf
        (.ofV4 192 0 2 1) = some 90 :=
  (request_algebra valid_empty).2.2.2.1 _ 60 90 rfl rfl (by decide)

end RouteTable

end RouteLease
