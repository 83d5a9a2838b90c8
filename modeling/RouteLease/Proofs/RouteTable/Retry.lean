import RouteLease.Proofs.RouteTable.Slot

/-!
# Retry passes and retry exhaustion

A retry pass with the bound `n` lists again every pending destination with fewer than `n`
retries and counts one more retry for it; it takes every other pending destination as active with
its pending expiration, and lists its mark as finalized. Both lists are in ascending destination
order, and nothing else changes (`Valid.retryPass_spec`).

Over runs of the table's operations (`TableOp`, `RouteTable.runOps`) in which every retry pass has
the same bound `n`, as the manager's ticks do, no pending entry ever counts more than `n` retries
(`Valid.retriesAtMost_runOps`): a request and a report of removal start a pending entry at zero, and a pass
counts a retry only below the bound. A destination that is pending with no retries and gets no
request or confirmation of its own counts exactly one retry per pass, whatever else happens
(`Valid.pendingOf_runOps_idle`), so it is listed again by the next `n` passes and finalized by the
one after (`RetryStage`, `Valid.retryStage_runOps`).
-/

namespace RouteLease

/-- An operation of the table, as a run applies it. -/
inductive TableOp where
  /-- An operation on one destination. -/
  | entry (d : IpAddress) (op : EntryOp)
  /-- A retry pass with a bound on the retries. -/
  | retryPass (maxRetries : Nat)
  /-- A sweep at a clock reading, with the share of active routes it may remove. -/
  | sweep (now percent : Nat)

/-- Whether an operation is a retry pass. -/
def TableOp.isRetryPass : TableOp → Bool
  | .retryPass _ => true
  | _ => false

namespace RouteTable

/-- The table after an operation. -/
def exec (t : RouteTable) : TableOp → RouteTable
  | .entry d op => t.perform d op
  | .retryPass n => (t.retryPass n).1
  | .sweep now percent => (t.sweep now percent).1

/-- The table after a run of operations. -/
def runOps (t : RouteTable) (ops : List TableOp) : RouteTable :=
  ops.foldl exec t

/-- The empty run leaves the table as it is. -/
@[simp]
theorem runOps_nil (t : RouteTable) : t.runOps [] = t :=
  rfl

/-- A run executes its first operation, then the rest. -/
@[simp]
theorem runOps_cons (t : RouteTable) (o : TableOp) (ops : List TableOp) :
    t.runOps (o :: ops) = (t.exec o).runOps ops :=
  rfl

section Retry

variable {t : RouteTable}

/-- Every table operation keeps the table valid. -/
theorem Valid.exec (hv : t.Valid) (o : TableOp) : (t.exec o).Valid := by
  cases o with
  | entry d op => exact hv.perform d op
  | retryPass n => exact hv.retryPass n
  | sweep now percent => exact hv.sweep now percent

/-- The table stays valid along every run of table operations. -/
theorem Valid.runOps (hv : t.Valid) (ops : List TableOp) : (t.runOps ops).Valid := by
  induction ops generalizing t with
  | nil => exact hv
  | cons o ops ih => exact ih (hv.exec o)

/-- After an operation on `d`, the pending entry of `d` is the one its rule leaves, and every
other pending entry stays. -/
theorem Valid.pendingOf_perform (hv : t.Valid) (d x : IpAddress) (o : EntryOp) :
    (t.perform d o).pendingOf x = if x = d then (o.onSlot (t.slot d)).pending? else t.pendingOf x := by
  rw [(hv.perform d o).pendingOf_eq_pending?, hv.slot_perform, Function.update_apply]
  split
  · rfl
  · exact (hv.pendingOf_eq_pending? x).symm

/-! ## One pass -/

/-- The retry pass retries exactly the pending destinations with retries left. -/
theorem mem_retryPass_retry {n : Nat} {x : IpAddress} :
    x ∈ (t.retryPass n).2.retry ↔ ∃ p, (x, p) ∈ t.pending ∧ p.retries < n := by
  unfold RouteTable.retryPass
  simp only [List.mem_map, List.mem_filter, decide_eq_true_eq]
  constructor
  · rintro ⟨⟨d, p⟩, ⟨hp, hlt⟩, rfl⟩
    exact ⟨p, hp, hlt⟩
  · rintro ⟨p, hp, hlt⟩
    exact ⟨(x, p), ⟨hp, hlt⟩, rfl⟩

/-- One retry pass on a valid table with the bound `n`:

* it lists again exactly the pending destinations with fewer than `n` retries, in ascending
  order, and each of them stays pending with one more retry, at most `n`;
* it finalizes exactly the marks of the other pending destinations, in ascending order of
  destination, and each of them is no longer pending but active with its pending expiration and a
  matching mark in the index;
* every destination that was not pending keeps its active expiration and its marks. -/
theorem Valid.retryPass_spec (hv : t.Valid) (n : Nat) :
    SortedSet.Sorted (t.retryPass n).2.retry ∧
    (∀ x, x ∈ (t.retryPass n).2.retry ↔ ∃ p, t.pendingOf x = some p ∧ p.retries < n) ∧
    (t.retryPass n).2.finalized.Pairwise (fun a b => compare a.dest b.dest = .lt) ∧
    (∀ m, m ∈ (t.retryPass n).2.finalized ↔
      ∃ p, t.pendingOf m.dest = some p ∧ n ≤ p.retries ∧ m.expiration = p.expiration) ∧
    (∀ x ∈ (t.retryPass n).2.retry, ∃ p, t.pendingOf x = some p ∧
      (t.retryPass n).1.pendingOf x = some { p with retries := p.retries + 1 } ∧
      p.retries + 1 ≤ n) ∧
    (∀ m ∈ (t.retryPass n).2.finalized, (t.retryPass n).1.pendingOf m.dest = none ∧
      (t.retryPass n).1.activeOf m.dest = some m.expiration ∧ m ∈ (t.retryPass n).1.expiry) ∧
    (∀ x, t.pendingOf x = none → (t.retryPass n).1.activeOf x = t.activeOf x ∧
      (t.retryPass n).1.pendingOf x = none ∧
      ∀ e, (⟨e, x⟩ : ExpiryMark) ∈ (t.retryPass n).1.expiry ↔ (⟨e, x⟩ : ExpiryMark) ∈ t.expiry) := by
  have hpend : ∀ x p, t.pendingOf x = some p ↔ (x, p) ∈ t.pending := fun x p =>
    SortedMap.get?_eq_some_iff hv.pending_sorted
  have hmemRetry : ∀ x, x ∈ (t.retryPass n).2.retry ↔
      ∃ p, t.pendingOf x = some p ∧ p.retries < n := fun x => by
    simp only [mem_retryPass_retry, hpend]
  have hmemFinal : ∀ m, m ∈ (t.retryPass n).2.finalized ↔
      ∃ p, t.pendingOf m.dest = some p ∧ n ≤ p.retries ∧ m.expiration = p.expiration := fun m => by
    simp only [mem_retryPass_finalized, hpend, eq_comm]
  have hv' := hv.retryPass n
  refine ⟨?_, hmemRetry, ?_, hmemFinal, ?_, ?_, ?_⟩
  · -- the listed destinations are keys of the sorted pending map, in its order
    exact List.pairwise_map.2 (hv.pending_sorted.filter _)
  · exact List.pairwise_map.2 (hv.pending_sorted.filter _)
  · intro x hx
    obtain ⟨p, hp, hlt⟩ := (hmemRetry x).1 hx
    refine ⟨p, hp, ?_, hlt⟩
    simp [hv.pendingOf_retryPass, hp, hlt]
  · intro m hm
    obtain ⟨p, hp, hge, he⟩ := (hmemFinal m).1 hm
    have hactive : (t.retryPass n).1.activeOf m.dest = some m.expiration := by
      rw [hv.activeOf_retryPass, hp]
      dsimp only
      rw [if_neg (Nat.not_lt.2 hge), he]
    refine ⟨?_, hactive, (hv'.mem_expiry m).2 hactive⟩
    simp [hv.pendingOf_retryPass, hp, Nat.not_lt.2 hge]
  · intro x hx
    have hactive : (t.retryPass n).1.activeOf x = t.activeOf x := by
      rw [hv.activeOf_retryPass, hx]
    refine ⟨hactive, by simp [hv.pendingOf_retryPass, hx], fun e => ?_⟩
    rw [hv'.mem_expiry, hv.mem_expiry]
    exact iff_of_eq (congrArg (· = some e) hactive)

/-! ## Runs -/

/-- Every pending entry counts at most `n` retries. -/
def RetriesAtMost (n : Nat) (t : RouteTable) : Prop :=
  ∀ x p, t.pendingOf x = some p → p.retries ≤ n

/-- A rule on one destination leaves a pending entry with no more retries than the bound, if the
slot had none above it: a request and a report of removal start at zero. -/
theorem retries_onSlot_le {n : Nat} {s : Slot} (hs : ∀ p, s.pending? = some p → p.retries ≤ n)
    (o : EntryOp) : ∀ p, (o.onSlot s).pending? = some p → p.retries ≤ n := by
  intro p hp
  cases o with
  | request e =>
    cases s <;> simp only [EntryOp.onSlot, Slot.request, Slot.pending?, Option.some.injEq,
      reduceCtorEq] at hp <;> simp [← hp]
  | confirmAdd f => cases s <;> simp [EntryOp.onSlot, Slot.confirmAdd, Slot.pending?] at hp
  | confirmDel =>
    cases s with
    | absent => simp [EntryOp.onSlot, Slot.confirmDel, Slot.pending?] at hp
    | pending q => exact hs p hp
    | active c =>
      simp only [EntryOp.onSlot, Slot.confirmDel, Slot.pending?, Option.some.injEq] at hp
      simp [← hp]

/-- A retry pass with the bound `n` leaves a pending entry with at most `n` retries, if the slot
had none above it: it counts a retry only below the bound. -/
theorem retries_retry_le {n : Nat} {s : Slot} (hs : ∀ p, s.pending? = some p → p.retries ≤ n) :
    ∀ p, (s.retry n).pending? = some p → p.retries ≤ n := by
  intro p hp
  cases s with
  | pending q =>
    by_cases hlt : q.retries < n
    · simp only [Slot.retry, hlt, if_true, Slot.pending?, Option.some.injEq] at hp
      subst hp
      exact hlt
    · simp [Slot.retry, hlt, Slot.pending?] at hp
  | absent | active c => exact hs p hp

/-- Every operation whose retry passes have the bound `n` keeps the retries at most `n`. -/
theorem Valid.retriesAtMost_exec (hv : t.Valid) {n : Nat} (ht : RetriesAtMost n t) {o : TableOp}
    (ho : ∀ k, o = .retryPass k → k = n) : RetriesAtMost n (t.exec o) := by
  intro x p hp
  -- the slots of the table before carry the bound
  have hs : ∀ y q, (t.slot y).pending? = some q → q.retries ≤ n := fun y q hq =>
    ht y q ((hv.pendingOf_eq_pending? y).trans hq)
  cases o with
  | entry d op =>
    rw [RouteTable.exec, hv.pendingOf_perform] at hp
    split at hp
    · rename_i hx
      subst hx
      exact retries_onSlot_le (hs x) op p hp
    · exact ht x p hp
  | retryPass k =>
    obtain rfl := ho k rfl
    rw [(hv.exec _).pendingOf_eq_pending?, RouteTable.exec, hv.slot_retryPass] at hp
    exact retries_retry_le (hs x) p hp
  | sweep now percent => exact ht x p hp

/-- Along a run whose retry passes all have the bound `n`, the retries stay at most `n`. -/
theorem Valid.retriesAtMost_runOps (hv : t.Valid) {n : Nat} (ht : RetriesAtMost n t)
    {ops : List TableOp} (hops : ∀ k, .retryPass k ∈ ops → k = n) :
    RetriesAtMost n (t.runOps ops) := by
  induction ops generalizing t with
  | nil => exact ht
  | cons o ops ih =>
    exact ih (hv.exec o) (hv.retriesAtMost_exec ht fun k hk => hops k (hk ▸ List.mem_cons_self))
      fun k hk => hops k (List.mem_cons_of_mem _ hk)

/-- An operation that is neither a request nor a confirmation for `d`, nor a retry pass, leaves
the pending entry of `d`. -/
theorem Valid.pendingOf_exec_of_idle (hv : t.Valid) {d : IpAddress} {p : PendingRoute}
    (hp : t.pendingOf d = some p) {o : TableOp} (hown : ∀ x, o ≠ .entry d (.request x) ∧
      o ≠ .entry d (.confirmAdd x)) (hpass : o.isRetryPass = false) :
    (t.exec o).pendingOf d = some p := by
  cases o with
  | entry d' op =>
    rw [RouteTable.exec, hv.pendingOf_perform]
    split
    · -- only a report of removal can be about `d`, and it leaves a pending slot alone
      rename_i hd
      subst hd
      have hs : t.slot d = .pending p := hv.slot_eq_pending hp
      cases op with
      | request x => exact absurd rfl (hown x).1
      | confirmAdd x => exact absurd rfl (hown x).2
      | confirmDel => rw [hs]; rfl
    · exact hp
  | retryPass k => simp [TableOp.isRetryPass] at hpass
  | sweep now percent => exact hp

/-- A pending destination that gets no request or confirmation of its own counts one more retry
at each pass with bound `n`, as long as the passes stay within it. -/
theorem Valid.pendingOf_runOps_idle (hv : t.Valid) {d : IpAddress} {e r n : Nat}
    (hp : t.pendingOf d = some ⟨e, r⟩) {ops : List TableOp}
    (hown : ∀ o ∈ ops, ∀ x, o ≠ .entry d (.request x) ∧ o ≠ .entry d (.confirmAdd x))
    (hops : ∀ k, .retryPass k ∈ ops → k = n) (hle : r + ops.countP TableOp.isRetryPass ≤ n) :
    (t.runOps ops).pendingOf d = some ⟨e, r + ops.countP TableOp.isRetryPass⟩ := by
  induction ops generalizing t r with
  | nil => exact hp
  | cons o ops ih =>
    have hown' : ∀ o' ∈ ops, ∀ x, o' ≠ .entry d (.request x) ∧ o' ≠ .entry d (.confirmAdd x) :=
      fun o' ho' => hown o' (List.mem_cons_of_mem _ ho')
    have hops' : ∀ k, .retryPass k ∈ ops → k = n := fun k hk => hops k (List.mem_cons_of_mem _ hk)
    rw [runOps_cons]
    rw [List.countP_cons] at hle ⊢
    cases hpass : o.isRetryPass with
    | false =>
      simp only [hpass, Bool.false_eq_true, if_false, Nat.add_zero] at hle ⊢
      exact ih (hv.exec o) (hv.pendingOf_exec_of_idle hp (hown o List.mem_cons_self) hpass)
        hown' hops' hle
    | true =>
      -- the pass has the bound `n`, which the retries have not reached yet
      obtain ⟨k⟩ | ⟨k⟩ | ⟨now, percent⟩ := o <;> simp [TableOp.isRetryPass] at hpass
      obtain rfl := hops k List.mem_cons_self
      simp only [TableOp.isRetryPass, if_true] at hle ⊢
      have hnext : (t.exec (.retryPass k)).pendingOf d = some ⟨e, r + 1⟩ := by
        simp [RouteTable.exec, hv.pendingOf_retryPass, hp, show r < k by omega]
      rw [ih (hv.exec _) hnext hown' hops' (by omega)]
      simp only [Option.some.injEq, PendingRoute.mk.injEq, true_and]
      omega

/-- Destination `d`, pending until `e`, has counted `j` retries under the bound `n`: the next pass
lists it again if `j < n`, and finalizes its mark if `j = n`. -/
def RetryStage (t : RouteTable) (d : IpAddress) (e n j : Nat) : Prop :=
  t.pendingOf d = some ⟨e, j⟩ ∧
    (j < n → d ∈ (t.retryPass n).2.retry ∧ ∀ m ∈ (t.retryPass n).2.finalized, m.dest ≠ d) ∧
    (j = n → ⟨e, d⟩ ∈ (t.retryPass n).2.finalized ∧ d ∉ (t.retryPass n).2.retry)

/-- A pending destination within the bound is at the stage of its retry count. -/
theorem Valid.retryStage (hv : t.Valid) {d : IpAddress} {e j n : Nat}
    (hp : t.pendingOf d = some ⟨e, j⟩) : t.RetryStage d e n j := by
  obtain ⟨-, hretry, -, hfinal, -⟩ := hv.retryPass_spec n
  refine ⟨hp, fun hlt => ⟨(hretry d).2 ⟨_, hp, hlt⟩, fun m hm hd => ?_⟩, fun heq => ⟨?_, ?_⟩⟩
  · -- a finalized mark of `d` would carry its entry, which is below the bound
    obtain ⟨p, hp', hge, -⟩ := (hfinal m).1 hm
    rw [hd, hp, Option.some.injEq] at hp'
    subst hp'
    exact absurd hge (Nat.not_le.2 hlt)
  · exact (hfinal _).2 ⟨_, hp, Nat.le_of_eq heq.symm, rfl⟩
  · intro hd
    obtain ⟨p, hp', hlt⟩ := (hretry d).1 hd
    rw [hp, Option.some.injEq] at hp'
    subst hp'
    exact absurd heq (Nat.ne_of_lt hlt)

/-- A destination pending with no retries that gets no request or confirmation of its own is, after
`j ≤ n` passes with the bound `n` and any other operations, at stage `j`. -/
theorem Valid.retryStage_runOps (hv : t.Valid) {d : IpAddress} {e n : Nat}
    (hp : t.pendingOf d = some ⟨e, 0⟩) {ops : List TableOp}
    (hown : ∀ o ∈ ops, ∀ x, o ≠ .entry d (.request x) ∧ o ≠ .entry d (.confirmAdd x))
    (hops : ∀ k, .retryPass k ∈ ops → k = n) (hle : ops.countP TableOp.isRetryPass ≤ n) :
    (t.runOps ops).RetryStage d e n (ops.countP TableOp.isRetryPass) := by
  have hj := hv.pendingOf_runOps_idle hp hown hops (by omega)
  rw [Nat.zero_add] at hj
  exact (hv.runOps ops).retryStage hj

/-- Along every run from the empty table whose retry passes all have the bound `n`, every pending
entry counts at most `n` retries. -/
theorem retriesAtMost_empty_runOps {n : Nat} {ops : List TableOp}
    (hops : ∀ k, .retryPass k ∈ ops → k = n) : RetriesAtMost n (empty.runOps ops) :=
  -- the empty table has no pending entry
  valid_empty.retriesAtMost_runOps (fun x p hp => by simp [empty, pendingOf, SortedMap.get?] at hp)
    hops

end Retry

end RouteTable

end RouteLease
