import RouteLease.Proofs.RouteTable.Retry
import RouteLease.Proofs.Manager.Interleaving

/-!
# The manager's table as a run of table operations

Each operation of the manager does to its table what a short run of table operations does
(`ManagerOp.tableOps`): an answer for a valid destination is a request, a confirmation and a
report of removal are the table's own, attaching a sink and an interface update leave the table
alone, and a tick is a retry pass with the configured bound followed by a sweep. So the table of a
manager after any run is a run of the table (`RoutingManager.table_run`), whose retry passes all
have the configured bound and number as many as the ticks.

What holds of table runs therefore holds of the manager's: `retry_exhaustion` states the retry
facts both for table runs and for manager runs, whatever ticks, interface updates and operations
on other destinations come between.
-/

namespace RouteLease

namespace ManagerOp

/-- The table operations a manager operation performs under the settings `s`. -/
def tableOps (s : RouteSettings) : ManagerOp → List TableOp
  | .attach _ => []
  | .insert now d ttl =>
    if d.isValid then [.entry d (.request (saturatingAdd (saturatingAdd now ttl) s.extraTtl))]
    else []
  | .confirmAdd now d => [.entry d (.confirmAdd (saturatingAdd now s.extraTtl))]
  | .confirmDel d => [.entry d .confirmDel]
  | .netdevUpdate _ _ => []
  | .tick now => [.retryPass s.maxRetries, .sweep now s.sweepPercent]

/-- Every retry pass of a manager operation has the configured bound. -/
theorem eq_maxRetries_of_mem_tableOps {s : RouteSettings} {o : ManagerOp} {k : Nat}
    (h : .retryPass k ∈ o.tableOps s) : k = s.maxRetries := by
  cases o with
  | insert now d ttl => by_cases hd : d.isValid <;> simp [tableOps, hd] at h
  | tick now => simpa [tableOps] using h
  | _ => simp [tableOps] at h

/-- A manager operation performs a retry pass exactly when it is a tick. -/
theorem countP_tableOps (s : RouteSettings) (o : ManagerOp) :
    (o.tableOps s).countP TableOp.isRetryPass = if o.isTick then 1 else 0 := by
  cases o with
  | insert now d ttl => by_cases hd : d.isValid <;> simp [tableOps, hd, TableOp.isRetryPass, isTick]
  | tick now => rfl
  | _ => simp [tableOps, TableOp.isRetryPass, isTick]

/-- A manager operation that is neither an answer nor a confirmation for `d` performs no request
or confirmation of `d`. -/
theorem ne_of_mem_tableOps {s : RouteSettings} {o : ManagerOp} {d : IpAddress}
    (hown : ∀ now ttl, o ≠ .insert now d ttl ∧ o ≠ .confirmAdd now d) :
    ∀ x ∈ o.tableOps s, ∀ y, x ≠ .entry d (.request y) ∧ x ≠ .entry d (.confirmAdd y) := by
  intro x hx y
  cases o with
  | insert now d' ttl =>
    have hd : d' ≠ d := fun h => (hown now ttl).1 (h ▸ rfl)
    by_cases hv : d'.isValid <;> simp_all [tableOps]
  | confirmAdd now d' =>
    have hd : d' ≠ d := fun h => (hown now 0).2 (h ▸ rfl)
    simp_all [tableOps]
  | tick now =>
    simp only [tableOps, List.mem_cons, List.not_mem_nil, or_false] at hx
    rcases hx with rfl | rfl <;> simp
  | _ => simp_all [tableOps]

end ManagerOp

namespace RoutingManager

/-- Running two lists of table operations one after the other is running their concatenation. -/
theorem runOps_append (t : RouteTable) (ops ops' : List TableOp) :
    t.runOps (ops ++ ops') = (t.runOps ops).runOps ops' :=
  List.foldl_append

/-- One manager operation does to the table what its table operations do. -/
theorem table_apply (m : RoutingManager) (o : ManagerOp) :
    (m.apply o).table = m.table.runOps (o.tableOps m.settings) := by
  cases o with
  | attach ifindex => rfl
  | insert now d ttl =>
    rw [apply, table_insert, ManagerOp.tableOps]
    split <;> rfl
  | confirmAdd now d => rfl
  | confirmDel d => rfl
  | netdevUpdate lookup config => simp [apply, netdevUpdate, ManagerOp.tableOps]
  | tick now =>
    rw [apply, table_tick]
    rfl

/-- The table after a manager run is the table run of its operations' table operations. -/
theorem table_run (m : RoutingManager) (ops : List ManagerOp) :
    (m.run ops).table = m.table.runOps (ops.flatMap (·.tableOps m.settings)) := by
  induction ops generalizing m with
  | nil => rfl
  | cons o ops ih =>
    rw [run_cons, ih, settings_apply, table_apply, List.flatMap_cons, runOps_append]

/-- The table operations of a manager run perform one retry pass per tick. -/
theorem countP_flatMap_tableOps (s : RouteSettings) (ops : List ManagerOp) :
    (ops.flatMap (·.tableOps s)).countP TableOp.isRetryPass = ops.countP ManagerOp.isTick := by
  induction ops with
  | nil => rfl
  | cons o ops ih =>
    rw [List.flatMap_cons, List.countP_append, ih, ManagerOp.countP_tableOps, List.countP_cons]
    omega

/-- Every retry pass of a manager run has the configured bound. -/
theorem eq_maxRetries_of_mem_flatMap_tableOps {s : RouteSettings} {ops : List ManagerOp}
    {k : Nat} (hk : .retryPass k ∈ ops.flatMap (·.tableOps s)) : k = s.maxRetries := by
  obtain ⟨o, -, ho⟩ := List.mem_flatMap.1 hk
  exact ManagerOp.eq_maxRetries_of_mem_tableOps ho

/-! ## Retries along manager runs -/

variable {m : RoutingManager}

/-- Along every run of a new manager, no pending entry counts more retries than configured. -/
theorem retriesAtMost_init_run (s : RouteSettings) (ops : List ManagerOp) :
    RouteTable.RetriesAtMost s.maxRetries ((init s).run ops).table := by
  rw [table_run]
  exact RouteTable.retriesAtMost_empty_runOps fun _ => eq_maxRetries_of_mem_flatMap_tableOps

/-- A destination pending with no retries that gets no answer or confirmation of its own is, after
`j` ticks up to the configured bound and any other operations, at stage `j`. -/
theorem retryStage_run (hv : m.table.Valid) {d : IpAddress} {e : Nat}
    (hp : m.table.pendingOf d = some ⟨e, 0⟩) {ops : List ManagerOp}
    (hown : ∀ o ∈ ops, ∀ now ttl, o ≠ .insert now d ttl ∧ o ≠ .confirmAdd now d)
    (hle : ops.countP ManagerOp.isTick ≤ m.settings.maxRetries) :
    (m.run ops).table.RetryStage d e m.settings.maxRetries (ops.countP ManagerOp.isTick) := by
  rw [table_run, ← countP_flatMap_tableOps m.settings ops]
  refine hv.retryStage_runOps hp ?_ (fun _ => eq_maxRetries_of_mem_flatMap_tableOps)
    (by rwa [countP_flatMap_tableOps])
  intro x hx y
  obtain ⟨o, ho, hx⟩ := List.mem_flatMap.1 hx
  exact ManagerOp.ne_of_mem_tableOps (hown o ho) x hx y

end RoutingManager

/-- Retry passes and retry exhaustion:

* one pass on a valid table with the bound `n` lists again exactly the pending destinations below
  it, in ascending order, each still pending with one more retry, at most `n`; it finalizes
  exactly the marks of the other pending destinations, in ascending order of destination, each no
  longer pending but active with its pending expiration and a matching mark; and every destination
  that was not pending keeps its active expiration and its marks;
* along every run from the empty table whose retry passes all have the bound `n`, and along every
  run of a new manager, no pending entry counts more retries than the bound;
* a destination pending with no retries that gets no request or confirmation of its own is, after
  `j` passes up to the bound, at stage `j`: pending with `j` retries, listed again by the next
  pass while `j < n` and finalized by it at `j = n`, whatever sweeps, ticks, interface updates and
  operations on other destinations come between. -/
theorem retry_exhaustion :
    (∀ t : RouteTable, t.Valid → ∀ n,
      SortedSet.Sorted (t.retryPass n).2.retry ∧
      (∀ x, x ∈ (t.retryPass n).2.retry ↔ ∃ p, t.pendingOf x = some p ∧ p.retries < n) ∧
      (t.retryPass n).2.finalized.Pairwise (fun a b => compare a.dest b.dest = .lt) ∧
      (∀ m, m ∈ (t.retryPass n).2.finalized ↔
        ∃ p, t.pendingOf m.dest = some p ∧ n ≤ p.retries ∧ m.expiration = p.expiration) ∧
      (∀ x ∈ (t.retryPass n).2.retry, ∃ p, t.pendingOf x = some p ∧
        (t.retryPass n).1.pendingOf x = some { p with retries := p.retries + 1 } ∧
        p.retries + 1 ≤ n) ∧
      (∀ m ∈ (t.retryPass n).2.finalized, (t.retryPass n).1.pendingOf m.dest = none ∧
        (t.retryPass n).1.activeOf m.dest = some m.expiration ∧ m ∈ (t.retryPass n).1.expiry) ∧
      (∀ x, t.pendingOf x = none → (t.retryPass n).1.activeOf x = t.activeOf x ∧
        (t.retryPass n).1.pendingOf x = none ∧
        ∀ e, (⟨e, x⟩ : ExpiryMark) ∈ (t.retryPass n).1.expiry ↔
          (⟨e, x⟩ : ExpiryMark) ∈ t.expiry)) ∧
    (∀ n (ops : List TableOp), (∀ k, .retryPass k ∈ ops → k = n) →
      ∀ x p, (RouteTable.empty.runOps ops).pendingOf x = some p → p.retries ≤ n) ∧
    (∀ s (ops : List ManagerOp) x p,
      ((RoutingManager.init s).run ops).table.pendingOf x = some p → p.retries ≤ s.maxRetries) ∧
    (∀ t : RouteTable, t.Valid → ∀ d e n, t.pendingOf d = some ⟨e, 0⟩ →
      ∀ ops : List TableOp, (∀ o ∈ ops, ∀ x, o ≠ .entry d (.request x) ∧
        o ≠ .entry d (.confirmAdd x)) →
      (∀ k, .retryPass k ∈ ops → k = n) → ops.countP TableOp.isRetryPass ≤ n →
      (t.runOps ops).RetryStage d e n (ops.countP TableOp.isRetryPass)) ∧
    (∀ m : RoutingManager, m.table.Valid → ∀ d e, m.table.pendingOf d = some ⟨e, 0⟩ →
      ∀ ops : List ManagerOp, (∀ o ∈ ops, ∀ now ttl, o ≠ .insert now d ttl ∧
        o ≠ .confirmAdd now d) →
      ops.countP ManagerOp.isTick ≤ m.settings.maxRetries →
      (m.run ops).table.RetryStage d e m.settings.maxRetries (ops.countP ManagerOp.isTick)) :=
  ⟨fun _ hv n => hv.retryPass_spec n,
    fun _ _ hops => RouteTable.retriesAtMost_empty_runOps hops,
    fun s ops => RoutingManager.retriesAtMost_init_run s ops,
    fun _ hv _ _ _ hp _ hown hops hle => hv.retryStage_runOps hp hown hops hle,
    fun _ hv _ _ hp _ hown hle => RoutingManager.retryStage_run hv hp hown hle⟩

/-- With the bound 2, a destination requested on the empty table and then passed over twice, with
a sweep between, is pending with two retries, and the third pass finalizes it. -/
theorem retry_exhaustion_two_passes :
    (RouteTable.empty.request (.ofV4 192 0 2 1) 90).1.Valid ∧
      (RouteTable.empty.request (.ofV4 192 0 2 1) 90).1.pendingOf (.ofV4 192 0 2 1) =
        some ⟨90, 0⟩ ∧
      ((RouteTable.empty.request (.ofV4 192 0 2 1) 90).1.runOps
        [.retryPass 2, .sweep 30 25, .retryPass 2]).RetryStage (.ofV4 192 0 2 1) 90 2 2 :=
  have hv := RouteTable.valid_empty.request (.ofV4 192 0 2 1) 90
  have hp : (RouteTable.empty.request (.ofV4 192 0 2 1) 90).1.pendingOf (.ofV4 192 0 2 1) =
      some ⟨90, 0⟩ := by decide
  ⟨hv, hp, retry_exhaustion.2.2.2.1 _ hv _ 90 2 hp [.retryPass 2, .sweep 30 25, .retryPass 2]
    (by simp) (by simp) (by decide)⟩

end RouteLease
