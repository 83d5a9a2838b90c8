import Mathlib.Logic.Function.Basic
import RouteLease.Proofs.RouteTable.Lifetime

/-!
# The table one destination at a time

A valid table says one of three things about each destination: it is absent, pending with an
entry, or active with an expiration (`RouteTable.slot`). These slots determine a valid table
completely, its ordered lists and its expiry index included (`Valid.ext`), so two valid tables
are equal as soon as they agree on every destination.

A request, a confirmation and a report of a removed route each change the slot of their own
destination only, by a fixed rule on slots (`Slot.request`, `Slot.confirmAdd`,
`Slot.confirmDel`); a retry pass changes every slot by `Slot.retry`. The algebra of the operations
is therefore the algebra of these rules. Operations on different destinations update different
points, so they commute (`Valid.perform_comm`). On one destination two operations compose as
their rules do: a request after a request is one request with the later expiration, a request
commutes with a report of removal, and a request commutes with a confirmation except on an absent
destination confirmed with a later fallback (`Slot.confirmAdd_request_comm`).
-/

namespace RouteLease

/-- Where a destination stands in a table. -/
inductive Slot where
  | absent
  | pending (p : PendingRoute)
  | active (expiration : Nat)
  deriving DecidableEq

namespace Slot

/-- The expiration of an active slot. -/
def active? : Slot → Option Nat
  | active e => some e
  | _ => none

/-- The entry of a pending slot. -/
def pending? : Slot → Option PendingRoute
  | pending p => some p
  | _ => none

/-- A request until `e`: an active destination keeps the later expiration; any other becomes
pending with the later expiration and no retries. -/
def request (e : Nat) : Slot → Slot
  | absent => pending ⟨e, 0⟩
  | pending p => pending ⟨max p.expiration e, 0⟩
  | active c => active (max c e)

/-- A confirmation with fallback `f`: a pending destination becomes active with its expiration,
an absent one with `f`, and an active one stays. -/
def confirmAdd (f : Nat) : Slot → Slot
  | absent => active f
  | pending p => active p.expiration
  | active c => active c

/-- A report of a removed route: an active destination becomes pending with its expiration and
no retries. -/
def confirmDel : Slot → Slot
  | active c => pending ⟨c, 0⟩
  | s => s

/-- One retry pass with the bound `n`: a pending destination below it counts one more retry,
one at it becomes active with its expiration. -/
def retry (n : Nat) : Slot → Slot
  | pending p =>
    if p.retries < n then pending { p with retries := p.retries + 1 } else active p.expiration
  | s => s

/-- Two requests are one request with the later expiration. -/
theorem request_request (s : Slot) (e e' : Nat) :
    (s.request e).request e' = s.request (max e e') := by
  cases s <;> simp [request, Nat.max_assoc]

/-- A request and a report of removal give the same slot in either order. -/
theorem confirmDel_request_comm (s : Slot) (e : Nat) :
    (s.request e).confirmDel = s.confirmDel.request e := by
  cases s <;> rfl

/-- A request and a confirmation give the same slot in either order, unless the destination is
absent and the fallback outlives the request. -/
theorem confirmAdd_request_comm (s : Slot) (e f : Nat) (h : ¬(s = absent ∧ e < f)) :
    (s.request e).confirmAdd f = (s.confirmAdd f).request e := by
  cases s with
  | absent =>
    simp only [request, confirmAdd, active.injEq]
    simp only [true_and, Nat.not_lt] at h
    omega
  | pending p => simp [request, confirmAdd]
  | active c => simp [request, confirmAdd]

end Slot

/-- An operation on one destination of the table. -/
inductive EntryOp where
  /-- A request until an expiration. -/
  | request (expiration : Nat)
  /-- A confirmation of an installed route, with the fallback expiration. -/
  | confirmAdd (fallback : Nat)
  /-- A report of a removed route. -/
  | confirmDel

/-- What an operation does to the slot of its destination. -/
def EntryOp.onSlot : EntryOp → Slot → Slot
  | .request e => Slot.request e
  | .confirmAdd f => Slot.confirmAdd f
  | .confirmDel => Slot.confirmDel

namespace RouteTable

/-- Where a destination stands in a table: active if it has an active expiration, else pending
if it has a pending entry, else absent. -/
def slot (t : RouteTable) (d : IpAddress) : Slot :=
  match t.activeOf d, t.pendingOf d with
  | some e, _ => .active e
  | none, some p => .pending p
  | none, none => .absent

/-- Carries out an operation on destination `d`. -/
def perform (t : RouteTable) (d : IpAddress) : EntryOp → RouteTable
  | .request e => (t.request d e).1
  | .confirmAdd f => (t.confirmAdd d f).1
  | .confirmDel => (t.confirmDel d).1

section Slot

variable {t : RouteTable} {d : IpAddress}

/-- The slot read off an active expiration and a pending entry. -/
theorem slot_eq (t : RouteTable) (d : IpAddress) :
    t.slot d = match t.activeOf d, t.pendingOf d with
      | some e, _ => .active e
      | none, some p => .pending p
      | none, none => .absent :=
  rfl

/-- A destination's active expiration is the one its slot holds. -/
theorem activeOf_eq_active? (t : RouteTable) (d : IpAddress) :
    t.activeOf d = (t.slot d).active? := by
  rw [slot_eq]
  cases t.activeOf d <;> cases t.pendingOf d <;> rfl

/-- In a valid table, a destination's pending entry is the one its slot holds. -/
theorem Valid.pendingOf_eq_pending? (hv : t.Valid) (d : IpAddress) :
    t.pendingOf d = (t.slot d).pending? := by
  rw [slot_eq]
  rcases hv.disjoint d with hp | ha
  · rw [hp]
    cases t.activeOf d <;> rfl
  · rw [ha]
    cases t.pendingOf d <;> rfl

/-- A pending destination of a valid table has a pending slot. -/
theorem Valid.slot_eq_pending (hv : t.Valid) {p : PendingRoute} (hp : t.pendingOf d = some p) :
    t.slot d = .pending p := by
  rw [slot_eq, hv.activeOf_eq_none hp, hp]

/-- Two valid tables with the same slots are the same table: the slots fix both maps, and the
active map fixes the expiry index. -/
theorem Valid.ext {t₁ t₂ : RouteTable} (h₁ : t₁.Valid) (h₂ : t₂.Valid) (h : t₁.slot = t₂.slot) :
    t₁ = t₂ := by
  have hactive : ∀ x, t₁.activeOf x = t₂.activeOf x := fun x => by
    rw [activeOf_eq_active?, activeOf_eq_active?, h]
  have hpending : ∀ x, t₁.pendingOf x = t₂.pendingOf x := fun x => by
    rw [h₁.pendingOf_eq_pending?, h₂.pendingOf_eq_pending?, h]
  have hp : t₁.pending = t₂.pending :=
    h₁.pending_sorted.eq_of_get?_eq h₂.pending_sorted hpending
  have ha : t₁.active = t₂.active := h₁.active_sorted.eq_of_get?_eq h₂.active_sorted hactive
  have he : t₁.expiry = t₂.expiry := h₁.expiry_sorted.eq_of_mem_iff h₂.expiry_sorted fun m => by
    rw [h₁.mem_expiry, h₂.mem_expiry, hactive]
  cases t₁
  cases t₂
  simp_all

/-! ## Each operation on the slots -/

/-- Making a destination active sets its slot to active, and keeps every other slot. -/
theorem slot_setActive (t : RouteTable) (d : IpAddress) (e : Nat) :
    (t.setActive d e).slot = Function.update t.slot d (.active e) := by
  funext x
  rw [slot_eq, activeOf_setActive, pendingOf_setActive, Function.update_apply]
  by_cases hx : x = d
  · simp [hx]
  · simp only [hx, if_false]
    rfl

/-- A new pending entry for a destination that is not active makes it pending. -/
theorem slot_insertPending (hd : t.activeOf d = none) (p : PendingRoute) :
    ({ t with pending := SortedMap.insert d p t.pending } : RouteTable).slot =
      Function.update t.slot d (.pending p) := by
  funext x
  rw [slot_eq, activeOf_withPending, Function.update_apply]
  by_cases hx : x = d
  · subst hx
    simp [pendingOf, SortedMap.get?_insert, hd]
  · simp only [pendingOf, SortedMap.get?_insert, hx, if_false]
    rfl

/-- Erasing the pending entry of a destination that is not active makes it absent. -/
theorem Valid.slot_erasePending (hv : t.Valid) (hd : t.activeOf d = none) :
    ({ t with pending := SortedMap.erase d t.pending } : RouteTable).slot =
      Function.update t.slot d .absent := by
  funext x
  rw [slot_eq, activeOf_withPending, Function.update_apply]
  by_cases hx : x = d
  · subst hx
    simp [pendingOf, SortedMap.get?_erase hv.pending_sorted, hd]
  · simp only [pendingOf, SortedMap.get?_erase hv.pending_sorted, hx, if_false]
    rfl

/-- A request changes the slot of its destination by `Slot.request`. -/
theorem slot_request (t : RouteTable) (d : IpAddress) (e : Nat) :
    (t.request d e).1.slot = Function.update t.slot d ((t.slot d).request e) := by
  unfold RouteTable.request
  cases ha : SortedMap.get? d t.active with
  | some c =>
    have hs : t.slot d = .active c := by simp [slot_eq, activeOf, ha]
    dsimp only
    split
    · rw [slot_setActive, hs, Slot.request, Nat.max_eq_right (by omega)]
    · rw [hs, Slot.request, Nat.max_eq_left (by omega), ← hs, Function.update_eq_self]
  | none =>
    dsimp only
    rw [slot_insertPending ha]
    congr 2
    cases hp : SortedMap.get? d t.pending with
    | some p => simp [slot_eq, activeOf, pendingOf, ha, hp, Slot.request]
    | none => simp [slot_eq, activeOf, pendingOf, ha, hp, Slot.request]

/-- A confirmation changes the slot of its destination by `Slot.confirmAdd`. -/
theorem Valid.slot_confirmAdd (hv : t.Valid) (d : IpAddress) (f : Nat) :
    (t.confirmAdd d f).1.slot = Function.update t.slot d ((t.slot d).confirmAdd f) := by
  unfold RouteTable.confirmAdd
  split
  · rename_i hc
    obtain ⟨c, hc⟩ := Option.isSome_iff_exists.1 hc
    have hs : t.slot d = .active c := by simp [slot_eq, activeOf, hc]
    rw [hs, Slot.confirmAdd, ← hs, Function.update_eq_self]
  · rename_i hc
    have ha : t.activeOf d = none := by simpa [SortedMap.contains, activeOf] using hc
    cases hp : SortedMap.get? d t.pending with
    | some p =>
      -- the pending entry leaves the pending map and the destination becomes active
      have hs : t.slot d = .pending p := by simp [slot_eq, ha, pendingOf, hp]
      dsimp only
      rw [slot_setActive, hv.slot_erasePending ha, Function.update_idem, hs, Slot.confirmAdd]
    | none =>
      have hs : t.slot d = .absent := by simp [slot_eq, ha, pendingOf, hp]
      dsimp only
      rw [slot_setActive, hs, Slot.confirmAdd]

/-- A report of a removed route changes the slot of its destination by `Slot.confirmDel`. -/
theorem Valid.slot_confirmDel (hv : t.Valid) (d : IpAddress) :
    (t.confirmDel d).1.slot = Function.update t.slot d (t.slot d).confirmDel := by
  unfold RouteTable.confirmDel
  cases ha : SortedMap.get? d t.active with
  | some e =>
    have hs : t.slot d = .active e := by simp [slot_eq, activeOf, ha]
    dsimp only
    rw [hs, Slot.confirmDel]
    funext x
    rw [Function.update_apply]
    by_cases hx : x = d
    · subst hx
      simp [slot_eq, activeOf, pendingOf, SortedMap.get?_erase hv.active_sorted,
        SortedMap.get?_insert]
    · simp [slot_eq, activeOf, pendingOf, SortedMap.get?_erase hv.active_sorted,
        SortedMap.get?_insert, hx]
  | none =>
    dsimp only
    -- a destination that is not active keeps its slot
    have hs : (t.slot d).confirmDel = t.slot d := by
      cases hsd : t.slot d with
      | active c =>
        have := activeOf_eq_active? t d
        simp [activeOf, ha, hsd, Slot.active?] at this
      | _ => rfl
    rw [hs, Function.update_eq_self]

/-- A retry pass changes every slot by `Slot.retry`. -/
theorem Valid.slot_retryPass (hv : t.Valid) (n : Nat) (x : IpAddress) :
    (t.retryPass n).1.slot x = (t.slot x).retry n := by
  rw [slot_eq, hv.activeOf_retryPass, hv.pendingOf_retryPass]
  cases hp : t.pendingOf x with
  | none =>
    simp only [Option.bind_none]
    cases ha : t.activeOf x <;> simp [slot_eq, ha, hp, Slot.retry]
  | some p =>
    have ha := hv.activeOf_eq_none hp
    dsimp only
    by_cases hn : p.retries < n <;> simp [slot_eq, ha, hp, hn, Slot.retry]

/-! ## Operations on one destination -/

/-- Every operation on one destination keeps the table valid. -/
theorem Valid.perform (hv : t.Valid) (d : IpAddress) (o : EntryOp) : (t.perform d o).Valid := by
  cases o with
  | request e => exact hv.request d e
  | confirmAdd f => exact hv.confirmAdd d f
  | confirmDel => exact hv.confirmDel d

/-- An operation changes the slot of its own destination by its rule, and no other slot. -/
theorem Valid.slot_perform (hv : t.Valid) (d : IpAddress) (o : EntryOp) :
    (t.perform d o).slot = Function.update t.slot d (o.onSlot (t.slot d)) := by
  cases o with
  | request e => exact slot_request t d e
  | confirmAdd f => exact hv.slot_confirmAdd d f
  | confirmDel => exact hv.slot_confirmDel d

/-- Two operations on one destination leave the slot their rules compose to. -/
theorem Valid.slot_perform_perform (hv : t.Valid) (d : IpAddress) (o o' : EntryOp) :
    ((t.perform d o).perform d o').slot =
      Function.update t.slot d (o'.onSlot (o.onSlot (t.slot d))) := by
  rw [(hv.perform d o).slot_perform, hv.slot_perform, Function.update_self,
    Function.update_idem]

/-- Operations on different destinations commute. -/
theorem Valid.perform_comm (hv : t.Valid) {d d' : IpAddress} (hd : d ≠ d') (o o' : EntryOp) :
    (t.perform d o).perform d' o' = (t.perform d' o').perform d o := by
  apply Valid.ext ((hv.perform d o).perform d' o') ((hv.perform d' o').perform d o)
  rw [(hv.perform d o).slot_perform, hv.slot_perform, (hv.perform d' o').slot_perform,
    hv.slot_perform, Function.update_of_ne hd.symm, Function.update_of_ne hd,
    Function.update_comm hd]

/-! ## The algebra of requests -/

/-- A destination's slot is absent exactly when it is neither active nor pending. -/
theorem slot_eq_absent_iff (t : RouteTable) (d : IpAddress) :
    t.slot d = .absent ↔ t.activeOf d = none ∧ t.pendingOf d = none := by
  rw [slot_eq]
  cases t.activeOf d <;> cases t.pendingOf d <;> simp

/-- Two operations on one destination leave the table that two others leave, when the rules of
both pairs compose to the same slot. -/
theorem Valid.perform_perform_congr (hv : t.Valid) (d : IpAddress) (o o' p p' : EntryOp)
    (h : o'.onSlot (o.onSlot (t.slot d)) = p'.onSlot (p.onSlot (t.slot d))) :
    (t.perform d o).perform d o' = (t.perform d p).perform d p' := by
  apply Valid.ext ((hv.perform d o).perform d o') ((hv.perform d p).perform d p')
  rw [hv.slot_perform_perform, hv.slot_perform_perform, h]

/-- A request after a request is one request with the later expiration. -/
theorem Valid.request_request (hv : t.Valid) (d : IpAddress) (e e' : Nat) :
    ((t.request d e).1.request d e').1 = (t.request d (max e e')).1 := by
  apply Valid.ext ((hv.request d e).request d e') (hv.request d _)
  rw [slot_request, slot_request, slot_request, Function.update_self, Function.update_idem,
    Slot.request_request]

/-- A request and a report of a removed route leave the same table in either order. -/
theorem Valid.request_confirmDel_comm (hv : t.Valid) (d d' : IpAddress) (e : Nat) :
    ((t.request d e).1.confirmDel d').1 = ((t.confirmDel d').1.request d e).1 := by
  by_cases hd : d = d'
  · subst hd
    exact hv.perform_perform_congr d (.request e) .confirmDel .confirmDel (.request e)
      (Slot.confirmDel_request_comm _ e)
  · exact hv.perform_comm hd (.request e) .confirmDel

/-- A request and a confirmation leave the same table in either order, unless they are for one
destination that the table lacks and the fallback outlives the request. -/
theorem Valid.request_confirmAdd_comm (hv : t.Valid) (d d' : IpAddress) (e f : Nat)
    (h : ¬(d = d' ∧ t.activeOf d = none ∧ t.pendingOf d = none ∧ e < f)) :
    ((t.request d e).1.confirmAdd d' f).1 = ((t.confirmAdd d' f).1.request d e).1 := by
  by_cases hd : d = d'
  · subst hd
    refine hv.perform_perform_congr d (.request e) (.confirmAdd f) (.confirmAdd f) (.request e)
      (Slot.confirmAdd_request_comm _ e f ?_)
    rw [slot_eq_absent_iff, and_assoc]
    exact fun h' => h ⟨rfl, h'⟩
  · exact hv.perform_comm hd (.request e) (.confirmAdd f)

/-- On a destination the table lacks, a request then a confirmation with a later fallback leave
it active at the request's expiration, and the other order at the fallback. -/
theorem Valid.activeOf_request_confirmAdd_of_absent (hv : t.Valid) (ha : t.activeOf d = none)
    (hp : t.pendingOf d = none) {e f : Nat} (hef : e < f) :
    ((t.request d e).1.confirmAdd d f).1.activeOf d = some e ∧
      ((t.confirmAdd d f).1.request d e).1.activeOf d = some f := by
  have hs : t.slot d = .absent := (slot_eq_absent_iff t d).2 ⟨ha, hp⟩
  have h₁ : ((t.perform d (.request e)).perform d (.confirmAdd f)).slot d = .active e := by
    rw [hv.slot_perform_perform, Function.update_self, hs]
    rfl
  have h₂ : ((t.perform d (.confirmAdd f)).perform d (.request e)).slot d = .active f := by
    rw [hv.slot_perform_perform, Function.update_self, hs]
    simp [EntryOp.onSlot, Slot.confirmAdd, Slot.request, Nat.max_eq_left (Nat.le_of_lt hef)]
  rw [activeOf_eq_active?, activeOf_eq_active?]
  exact ⟨congrArg Slot.active? h₁, congrArg Slot.active? h₂⟩

end Slot

end RouteTable

end RouteLease
