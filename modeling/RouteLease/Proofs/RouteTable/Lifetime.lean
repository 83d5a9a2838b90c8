import RouteLease.Proofs.RouteTable.Invariant

/-!
# How long the table keeps a destination

`RouteTable.expirationOf` is the expiration the table records for a destination, active or
pending, and `none` for a destination it does not track. On a valid table each operation changes
it in one way only:

* a request for `d` records the later of the old expiration and the requested one
  (`expirationOf_request`), and a confirmation of `d` keeps the old one or, for a
  destination not tracked, starts the fallback (`Valid.expirationOf_confirmAdd`);
* a report of a removed route and a retry pass move destinations between the two maps with their
  expirations, so they change no expiration at all (`Valid.expirationOf_confirmDel`,
  `Valid.expirationOf_retryPass`);
* a sweep forgets exactly the destinations of the marks it removes, each of them due
  (`Valid.expirationOf_sweep`, `Valid.expirationOf_of_mem_sweep`).

So no operation lowers a recorded expiration, and only a sweep ends one. The last section says
which destinations are pending after the operations that push routes.
-/

namespace RouteLease

/-- Whether a request made its destination pending, so that its routes are to be pushed. -/
def RequestOutcome.isPending : RequestOutcome → Bool
  | .pending _ => true
  | _ => false

namespace RouteTable

/-- The expiration a table records for a destination: its active expiration, else its pending
one. -/
def expirationOf (t : RouteTable) (d : IpAddress) : Option Nat :=
  (t.activeOf d).or ((t.pendingOf d).map PendingRoute.expiration)

section Lifetime

variable {t : RouteTable} {d x : IpAddress}

/-- Making a destination active keeps the pending entries. -/
@[simp]
theorem setActive_pending (t : RouteTable) (d : IpAddress) (e : Nat) :
    (t.setActive d e).pending = t.pending :=
  rfl

/-- Replacing the pending entries keeps the active ones. -/
@[simp]
theorem activeOf_withPending (t : RouteTable) (l : List (IpAddress × PendingRoute))
    (x : IpAddress) : ({ t with pending := l } : RouteTable).activeOf x = t.activeOf x :=
  rfl

/-- An active destination's expiration is its active one. -/
theorem expirationOf_of_activeOf {e : Nat} (h : t.activeOf d = some e) :
    t.expirationOf d = some e := by
  simp [expirationOf, h]

/-- In a valid table, a pending destination's expiration is its pending one. -/
theorem Valid.expirationOf_of_pendingOf (hv : t.Valid) {p : PendingRoute}
    (h : t.pendingOf d = some p) : t.expirationOf d = some p.expiration := by
  simp [expirationOf, hv.activeOf_eq_none h, h]

/-- A destination has no expiration exactly when it is neither active nor pending. -/
theorem expirationOf_eq_none_iff :
    t.expirationOf d = none ↔ t.activeOf d = none ∧ t.pendingOf d = none := by
  simp [expirationOf]

/-! ## Requests and confirmations -/

/-- A request for `d` records the later of its expiration and the one `d` had, if any. -/
theorem expirationOf_request (t : RouteTable) (d : IpAddress) (e : Nat) (x : IpAddress) :
    (t.request d e).1.expirationOf x =
      if x = d then some (max ((t.expirationOf d).getD e) e) else t.expirationOf x := by
  unfold RouteTable.request
  cases ha : SortedMap.get? d t.active with
  | some current =>
    have hd : t.expirationOf d = some current := expirationOf_of_activeOf ha
    dsimp only
    split
    · -- an active route that now lives longer
      by_cases hx : x = d
      · subst hx
        rw [if_pos rfl, hd, Option.getD_some, expirationOf, activeOf_setActive, if_pos rfl]
        simp only [Option.some_or, Option.some.injEq]
        omega
      · simp [expirationOf, activeOf_setActive, hx]
    · by_cases hx : x = d
      · subst hx
        simp only [hd, if_pos, Option.getD_some, Option.some.injEq]
        omega
      · simp [hx]
  | none =>
    dsimp only
    by_cases hx : x = d
    · subst hx
      cases hp : SortedMap.get? x t.pending <;>
        simp [expirationOf, activeOf, pendingOf, SortedMap.get?_insert, ha, hp]
    · simp [expirationOf, activeOf, pendingOf, SortedMap.get?_insert, hx]

/-- A confirmation of `d` keeps its expiration, or starts `f` for a destination not tracked. -/
theorem Valid.expirationOf_confirmAdd (hv : t.Valid) (d : IpAddress) (f : Nat) (x : IpAddress) :
    (t.confirmAdd d f).1.expirationOf x =
      if x = d then some ((t.expirationOf d).getD f) else t.expirationOf x := by
  unfold RouteTable.confirmAdd
  split
  · rename_i hc
    obtain ⟨a, ha⟩ := Option.isSome_iff_exists.1 hc
    by_cases hx : x = d
    · subst hx
      simp [expirationOf_of_activeOf ha]
    · simp [hx]
  · rename_i hc
    have ha : t.activeOf d = none := by simpa [SortedMap.contains, activeOf] using hc
    cases hp : SortedMap.get? d t.pending with
    | some p =>
      -- the pending entry leaves for the active map with its expiration
      by_cases hx : x = d
      · subst hx
        simp [expirationOf, activeOf_setActive, pendingOf, ha, hp]
      · simp [expirationOf, activeOf_setActive, pendingOf, SortedMap.get?_erase hv.pending_sorted,
          hx]
    | none =>
      by_cases hx : x = d
      · subst hx
        simp [expirationOf, activeOf_setActive, pendingOf, ha, hp]
      · simp [expirationOf, activeOf_setActive, hx]

/-- A report of a removed route moves the destination back to pending with its expiration. -/
theorem Valid.expirationOf_confirmDel (hv : t.Valid) (d x : IpAddress) :
    (t.confirmDel d).1.expirationOf x = t.expirationOf x := by
  unfold RouteTable.confirmDel
  cases ha : SortedMap.get? d t.active with
  | none => rfl
  | some e =>
    by_cases hx : x = d
    · subst hx
      simp [expirationOf, activeOf, pendingOf, SortedMap.get?_insert,
        SortedMap.get?_erase hv.active_sorted, ha]
    · simp [expirationOf, activeOf, pendingOf, SortedMap.get?_insert,
        SortedMap.get?_erase hv.active_sorted, hx]

/-! ## The retry pass -/

/-- Making the destinations of marks active keeps the pending entries. -/
theorem pendingOf_foldl_setActive (marks : List ExpiryMark) (t : RouteTable) (x : IpAddress) :
    (marks.foldl (fun acc m => acc.setActive m.dest m.expiration) t).pendingOf x =
      t.pendingOf x := by
  induction marks generalizing t with
  | nil => rfl
  | cons m ms ih => rw [List.foldl_cons, ih, pendingOf_setActive]

/-- Moving other destinations into the active map leaves a destination's expiration there. -/
theorem activeOf_foldl_setActive_of_forall_ne (marks : List ExpiryMark) (t : RouteTable)
    (h : ∀ m ∈ marks, m.dest ≠ x) :
    (marks.foldl (fun acc m => acc.setActive m.dest m.expiration) t).activeOf x =
      t.activeOf x := by
  induction marks generalizing t with
  | nil => rfl
  | cons m ms ih =>
    rw [List.foldl_cons, ih _ fun m' hm' => h m' (List.mem_cons_of_mem _ hm'), activeOf_setActive,
      if_neg (h m List.mem_cons_self).symm]

/-- The one mark of a destination among those moved into the active map sets its expiration. -/
theorem activeOf_foldl_setActive_of_mem (marks : List ExpiryMark) (t : RouteTable)
    {m : ExpiryMark} (hm : m ∈ marks) (hu : ∀ m' ∈ marks, m'.dest = m.dest → m' = m) :
    (marks.foldl (fun acc m => acc.setActive m.dest m.expiration) t).activeOf m.dest =
      some m.expiration := by
  induction marks generalizing t with
  | nil => simp at hm
  | cons m₀ ms ih =>
    rw [List.foldl_cons]
    by_cases hin : m ∈ ms
    · exact ih _ hin fun m' hm' => hu m' (List.mem_cons_of_mem _ hm')
    · -- `m` is the head, and no later mark is of its destination
      obtain rfl : m = m₀ := (List.mem_cons.1 hm).resolve_right hin
      have hne : ∀ m' ∈ ms, m'.dest ≠ m.dest := fun m' hm' hd =>
        hin (hu m' (List.mem_cons_of_mem _ hm') hd ▸ hm')
      rw [activeOf_foldl_setActive_of_forall_ne ms _ hne, activeOf_setActive, if_pos rfl]

/-- A retry pass counts one more retry for a pending destination with retries left, and takes
the others out of the pending map. -/
theorem Valid.pendingOf_retryPass (hv : t.Valid) (n : Nat) (x : IpAddress) :
    (t.retryPass n).1.pendingOf x = (t.pendingOf x).bind fun p =>
      if p.retries < n then some { p with retries := p.retries + 1 } else none := by
  unfold RouteTable.retryPass
  dsimp only
  rw [pendingOf_foldl_setActive]
  have hs := (hv.pending_sorted.filter (fun q => decide (q.2.retries < n))).map
    (g := fun q => (q.1, { q.2 with retries := q.2.retries + 1 })) fun _ => rfl
  show SortedMap.get? x (List.map _ (List.filter _ t.pending)) = _
  apply Option.ext
  intro q
  rw [SortedMap.get?_eq_some_iff hs]
  simp only [List.mem_map, List.mem_filter, Prod.mk.injEq]
  constructor
  · rintro ⟨⟨d, p⟩, ⟨hp, hlt⟩, rfl, rfl⟩
    simp_all [pendingOf, (SortedMap.get?_eq_some_iff hv.pending_sorted).2 hp]
  · cases hp : t.pendingOf x with
    | none => simp
    | some p =>
      simp only [Option.bind_some, Option.ite_none_right_eq_some, Option.some.injEq]
      rintro ⟨hlt, rfl⟩
      exact ⟨(x, p), ⟨(SortedMap.get?_eq_some_iff hv.pending_sorted).1 hp, by simpa using hlt⟩,
        rfl, rfl⟩

/-- The retry pass finalizes exactly the marks of the pending destinations out of retries, at their
pending expirations. -/
theorem mem_retryPass_finalized {n : Nat} {m : ExpiryMark} :
    m ∈ (t.retryPass n).2.finalized ↔
      ∃ p, (m.dest, p) ∈ t.pending ∧ n ≤ p.retries ∧ p.expiration = m.expiration := by
  obtain ⟨e, d⟩ := m
  unfold RouteTable.retryPass
  simp only [List.mem_map, List.mem_filter, ExpiryMark.mk.injEq]
  constructor
  · rintro ⟨⟨d', p⟩, ⟨hp, hge⟩, rfl, rfl⟩
    exact ⟨p, hp, by simpa using hge, rfl⟩
  · rintro ⟨p, hp, hge, rfl⟩
    exact ⟨(d, p), ⟨hp, by simpa using hge⟩, rfl, rfl⟩

/-- A finalized mark carries the pending entry of its destination, out of retries. -/
theorem Valid.pendingOf_of_mem_finalized (hv : t.Valid) {n : Nat} {m : ExpiryMark}
    (hm : m ∈ (t.retryPass n).2.finalized) :
    ∃ p, t.pendingOf m.dest = some p ∧ n ≤ p.retries ∧ p.expiration = m.expiration := by
  obtain ⟨p, hp, hge, he⟩ := mem_retryPass_finalized.1 hm
  exact ⟨p, (SortedMap.get?_eq_some_iff hv.pending_sorted).2 hp, hge, he⟩

/-- A retry pass makes a pending destination whose retries ran out active with its expiration,
and leaves every other active expiration. -/
theorem Valid.activeOf_retryPass (hv : t.Valid) (n : Nat) (x : IpAddress) :
    (t.retryPass n).1.activeOf x = match t.pendingOf x with
      | some p => if p.retries < n then t.activeOf x else some p.expiration
      | none => t.activeOf x := by
  have hfold : (t.retryPass n).1.activeOf x = (List.foldl
      (fun (acc : RouteTable) m => acc.setActive m.dest m.expiration) _
      (t.retryPass n).2.finalized).activeOf x :=
    rfl
  have hof : ∀ m ∈ (t.retryPass n).2.finalized, m.dest = x →
      ∃ p, t.pendingOf x = some p ∧ n ≤ p.retries ∧ p.expiration = m.expiration :=
    fun m hm hd => hd ▸ hv.pendingOf_of_mem_finalized hm
  rw [hfold]
  cases hp : t.pendingOf x with
  | none =>
    rw [activeOf_foldl_setActive_of_forall_ne, activeOf_withPending]
    intro m hm hd
    obtain ⟨p, hp', -⟩ := hof m hm hd
    simp [hp] at hp'
  | some p =>
    dsimp only
    split
    · rw [activeOf_foldl_setActive_of_forall_ne, activeOf_withPending]
      intro m hm hd
      obtain ⟨p', hp', hge, -⟩ := hof m hm hd
      rw [hp, Option.some.injEq] at hp'
      subst hp'
      omega
    · have hm : (⟨p.expiration, x⟩ : ExpiryMark) ∈ (t.retryPass n).2.finalized :=
        mem_retryPass_finalized.2
          ⟨p, (SortedMap.get?_eq_some_iff hv.pending_sorted).1 hp, by omega, rfl⟩
      refine activeOf_foldl_setActive_of_mem _ _ hm fun m' hm' hd => ?_
      obtain ⟨p', hp', -, he⟩ := hof m' hm' hd
      rw [hp, Option.some.injEq] at hp'
      subst hp'
      obtain ⟨e', d'⟩ := m'
      simp_all

/-- A retry pass moves destinations between the maps with their expirations. -/
theorem Valid.expirationOf_retryPass (hv : t.Valid) (n : Nat) (x : IpAddress) :
    (t.retryPass n).1.expirationOf x = t.expirationOf x := by
  rw [expirationOf, hv.activeOf_retryPass, hv.pendingOf_retryPass, expirationOf]
  cases hp : t.pendingOf x with
  | none => rfl
  | some p =>
    rw [hv.activeOf_eq_none hp]
    by_cases hlt : p.retries < n <;> simp [hlt]

/-! ## The sweep -/

/-- A sweep keeps the pending entries. -/
@[simp]
theorem pendingOf_sweep (t : RouteTable) (now percent : Nat) (x : IpAddress) :
    (t.sweep now percent).1.pendingOf x = t.pendingOf x :=
  rfl

/-- A mark that a sweep removes is the mark of an active destination of the table before. -/
theorem Valid.expirationOf_of_mem_sweep (hv : t.Valid) {now percent : Nat} {r : ExpiryMark}
    (hr : r ∈ (t.sweep now percent).2) : t.expirationOf r.dest = some r.expiration :=
  expirationOf_of_activeOf ((hv.mem_expiry r).1 ((sweep_removes_front t now percent).subset hr))

/-- A sweep forgets the destinations of the marks it removes, and only those. -/
theorem Valid.expirationOf_sweep (hv : t.Valid) (now percent : Nat) (x : IpAddress) :
    (t.sweep now percent).1.expirationOf x =
      if ∃ r ∈ (t.sweep now percent).2, r.dest = x then none else t.expirationOf x := by
  have hactive := SortedMap.get?_foldl_erase ExpiryMark.dest (t.sweep now percent).2
    hv.active_sorted x
  rw [expirationOf, pendingOf_sweep]
  show (SortedMap.get? x _).or _ = _
  rw [sweep_fst, hactive]
  split
  · -- a removed destination was active, so it was not pending either
    rename_i hex
    obtain ⟨r, hr, rfl⟩ := hex
    have ha : t.activeOf r.dest = some r.expiration :=
      (hv.mem_expiry r).1 ((sweep_removes_front t now percent).subset hr)
    simp [hv.pendingOf_eq_none ha]
  · rfl

/-! ## Pending after a push -/

/-- A request answered `pending` leaves its destination pending. -/
theorem pendingOf_request_of_isPending {d : IpAddress} {e : Nat}
    (h : (t.request d e).2.isPending) : ((t.request d e).1.pendingOf d).isSome := by
  unfold RouteTable.request at h ⊢
  cases ha : SortedMap.get? d t.active with
  | some current =>
    rw [ha] at h
    dsimp only at h
    split at h <;> simp [RequestOutcome.isPending] at h
  | none => simp [pendingOf, SortedMap.get?_insert]

/-- A request is answered `pending` exactly when its destination is not active. -/
theorem isPending_request_iff {d : IpAddress} {e : Nat} :
    (t.request d e).2.isPending ↔ t.activeOf d = none := by
  unfold RouteTable.request
  cases ha : SortedMap.get? d t.active with
  | some current =>
    simp only [activeOf, ha, reduceCtorEq, iff_false]
    split <;> simp [RequestOutcome.isPending]
  | none => simp [activeOf, RequestOutcome.isPending, ha]

/-- A retry pass keeps pending every destination it pushes again. -/
theorem Valid.pendingOf_retryPass_of_mem_retry (hv : t.Valid) {n : Nat} {x : IpAddress}
    (h : x ∈ (t.retryPass n).2.retry) : ((t.retryPass n).1.pendingOf x).isSome := by
  have : ∃ p, (x, p) ∈ t.pending ∧ p.retries < n := by
    unfold RouteTable.retryPass at h
    simp only [List.mem_map, List.mem_filter] at h
    obtain ⟨⟨d, p⟩, ⟨hp, hlt⟩, rfl⟩ := h
    exact ⟨p, hp, by simpa using hlt⟩
  obtain ⟨p, hp, hlt⟩ := this
  have hx : t.pendingOf x = some p := (SortedMap.get?_eq_some_iff hv.pending_sorted).2 hp
  simp [hv.pendingOf_retryPass, hx, hlt]

/-- In a valid table, every listed pending destination has a pending entry. -/
theorem Valid.pendingOf_of_mem_pendingDestinations (hv : t.Valid) {x : IpAddress}
    (h : x ∈ t.pendingDestinations) : (t.pendingOf x).isSome := by
  obtain ⟨⟨d, p⟩, hp, rfl⟩ := List.mem_map.1 h
  simp [pendingOf, (SortedMap.get?_eq_some_iff hv.pending_sorted).2 hp]

end Lifetime

end RouteTable

end RouteLease
