import RouteLease.Proofs.Order
import RouteLease.Proofs.Sorted

/-!
# The route table's invariant

`RouteTable.Valid` is what every table reached by the daemon satisfies. Its first three fields are
the shape of the table's ordered collections: the pending and active maps are sorted by
destination, and the expiry index is sorted by expiration and destination. The last two are the
bookkeeping that the operations must keep by themselves:

* no destination is both pending and active (`Valid.disjoint`);
* the expiry index holds exactly one mark per active destination, carrying its expiration
  (`Valid.mem_expiry`, with the index free of duplicates by its order).

`valid_inductive` shows that the empty table is valid and that every operation keeps a valid
table valid, whatever its arguments. The proofs go through one lemma per operation. Moving a
destination into the active map (`setActive`) is the step that most operations share:
`Valid.setActive` keeps the invariant as long as the destination is not pending, because it drops
the destination's old mark before it inserts the new one.
-/

namespace RouteLease

namespace RouteTable

/-- The route table's invariant: sorted collections, no destination both pending and active, and
an expiry index that holds exactly the marks of the active destinations. -/
structure Valid (t : RouteTable) : Prop where
  pending_sorted : SortedMap.Sorted t.pending
  active_sorted : SortedMap.Sorted t.active
  expiry_sorted : SortedSet.Sorted t.expiry
  disjoint : ∀ d, t.pendingOf d = none ∨ t.activeOf d = none
  mem_expiry : ∀ m, m ∈ t.expiry ↔ t.activeOf m.dest = some m.expiration

/-- The empty table is valid. -/
theorem valid_empty : empty.Valid where
  pending_sorted := SortedMap.sorted_nil
  active_sorted := SortedMap.sorted_nil
  expiry_sorted := SortedSet.sorted_nil
  disjoint _ := Or.inl rfl
  mem_expiry _ := by simp [empty, activeOf, SortedMap.get?]

section Valid

variable {t : RouteTable}

/-- A pending destination of a valid table is not active. -/
theorem Valid.activeOf_eq_none (hv : t.Valid) {d : IpAddress} {p : PendingRoute}
    (hp : t.pendingOf d = some p) : t.activeOf d = none :=
  (hv.disjoint d).resolve_left (by simp [hp])

/-- An active destination of a valid table is not pending. -/
theorem Valid.pendingOf_eq_none (hv : t.Valid) {d : IpAddress} {e : Nat}
    (ha : t.activeOf d = some e) : t.pendingOf d = none :=
  (hv.disjoint d).resolve_right (by simp [ha])

/-- Two marks of one destination in the index of a valid table are the same mark. -/
theorem Valid.eq_of_mem_expiry (hv : t.Valid) {m m' : ExpiryMark} (hm : m ∈ t.expiry)
    (hm' : m' ∈ t.expiry) (hd : m.dest = m'.dest) : m = m' := by
  have he := (hv.mem_expiry m).1 hm
  have he' := (hv.mem_expiry m').1 hm'
  rw [hd, he'] at he
  obtain ⟨e, d⟩ := m
  obtain ⟨e', d'⟩ := m'
  simp_all

/-! ## Moving a destination into the active map -/

/-- Making a destination active keeps every pending entry. -/
@[simp]
theorem pendingOf_setActive (t : RouteTable) (d : IpAddress) (e : Nat) (x : IpAddress) :
    (t.setActive d e).pendingOf x = t.pendingOf x :=
  rfl

/-- Making a destination active sets its active expiration and keeps every other. -/
theorem activeOf_setActive (t : RouteTable) (d : IpAddress) (e : Nat) (x : IpAddress) :
    (t.setActive d e).activeOf x = if x = d then some e else t.activeOf x :=
  SortedMap.get?_insert d x e t.active

/-- After `setActive d e` the index holds the new mark of `d` and the old marks of every other
destination: the old mark of `d`, if any, is gone. -/
theorem mem_expiry_setActive (hv : t.Valid) (d : IpAddress) (e : Nat) (m : ExpiryMark) :
    m ∈ (t.setActive d e).expiry ↔ m = ⟨e, d⟩ ∨ (m ∈ t.expiry ∧ m.dest ≠ d) := by
  -- Every mark of `d` in the old index carries its old expiration.
  have hold : ∀ m ∈ t.expiry, m.dest = d → t.activeOf d = some m.expiration := by
    intro m hm hd
    rw [← hd]
    exact (hv.mem_expiry m).1 hm
  dsimp only [setActive]
  rw [SortedSet.mem_insert]
  apply or_congr_right
  cases hp : SortedMap.get? d t.active with
  | none =>
    refine ⟨fun hm => ⟨hm, fun hd => ?_⟩, fun hm => hm.1⟩
    have := hold m hm hd
    simp_all [activeOf]
  | some p =>
    rw [SortedSet.mem_erase hv.expiry_sorted]
    constructor
    · rintro ⟨hne, hm⟩
      refine ⟨hm, fun hd => hne ?_⟩
      have := hold m hm hd
      obtain ⟨e', d'⟩ := m
      simp_all [activeOf]
    · rintro ⟨hm, hd⟩
      refine ⟨fun he => hd ?_, hm⟩
      rw [he]

/-- Moving a destination that is not pending into the active map keeps a table valid. -/
theorem Valid.setActive (hv : t.Valid) {d : IpAddress} (hd : t.pendingOf d = none) (e : Nat) :
    (t.setActive d e).Valid where
  pending_sorted := hv.pending_sorted
  active_sorted := hv.active_sorted.insert d e
  expiry_sorted := by
    dsimp only [RouteTable.setActive]
    split
    · exact (hv.expiry_sorted.erase _).insert _
    · exact hv.expiry_sorted.insert _
  disjoint x := by
    rw [pendingOf_setActive, activeOf_setActive]
    by_cases hx : x = d
    · subst hx
      exact Or.inl hd
    · simpa [hx] using hv.disjoint x
  mem_expiry m := by
    rw [mem_expiry_setActive hv, activeOf_setActive]
    obtain ⟨me, md⟩ := m
    by_cases hm : md = d
    · subst hm
      simp [eq_comm]
    · simp [hm, hv.mem_expiry]

/-- Moving a list of destinations that are not pending into the active map, one after the other,
keeps a table valid. -/
theorem Valid.foldl_setActive (marks : List ExpiryMark) (hv : t.Valid)
    (h : ∀ m ∈ marks, t.pendingOf m.dest = none) :
    (marks.foldl (fun acc m => acc.setActive m.dest m.expiration) t).Valid := by
  induction marks generalizing t with
  | nil => exact hv
  | cons m ms ih =>
    refine ih (hv.setActive (h m (by simp)) m.expiration) fun m' hm' => ?_
    rw [pendingOf_setActive]
    exact h m' (by simp [hm'])

/-! ## Changing the pending map -/

/-- A new pending entry for a destination that is not active keeps a table valid. -/
theorem Valid.insertPending (hv : t.Valid) {d : IpAddress} (hd : t.activeOf d = none)
    (p : PendingRoute) :
    ({ t with pending := SortedMap.insert d p t.pending } : RouteTable).Valid where
  pending_sorted := hv.pending_sorted.insert d p
  active_sorted := hv.active_sorted
  expiry_sorted := hv.expiry_sorted
  disjoint x := by
    by_cases hx : x = d
    · subst hx
      exact Or.inr hd
    · simpa [pendingOf, activeOf, SortedMap.get?_insert, hx] using hv.disjoint x
  mem_expiry := hv.mem_expiry

/-- A pending map whose every destination was pending before keeps a table valid. -/
theorem Valid.withPending (hv : t.Valid) {l : List (IpAddress × PendingRoute)}
    (hs : SortedMap.Sorted l) (hl : ∀ q ∈ l, ∃ p, (q.1, p) ∈ t.pending) :
    ({ t with pending := l } : RouteTable).Valid where
  pending_sorted := hs
  active_sorted := hv.active_sorted
  expiry_sorted := hv.expiry_sorted
  disjoint x := by
    rcases hv.disjoint x with hx | hx
    · left
      rw [pendingOf, SortedMap.get?_eq_none_iff hs]
      intro v hxv
      obtain ⟨p, hp⟩ := hl (x, v) hxv
      exact (SortedMap.get?_eq_none_iff hv.pending_sorted).1 hx p hp
    · exact Or.inr hx
  mem_expiry := hv.mem_expiry

/-- Erasing a pending entry keeps a table valid. -/
theorem Valid.erasePending (hv : t.Valid) (d : IpAddress) :
    ({ t with pending := SortedMap.erase d t.pending } : RouteTable).Valid :=
  hv.withPending (hv.pending_sorted.erase d) fun q hq =>
    ⟨q.2, ((SortedMap.mem_erase hv.pending_sorted).1 hq).1⟩

/-! ## The operations -/

/-- A request keeps a table valid. -/
theorem Valid.request (hv : t.Valid) (d : IpAddress) (e : Nat) : (t.request d e).1.Valid := by
  unfold RouteTable.request
  cases ha : SortedMap.get? d t.active with
  | some current =>
    dsimp only
    split
    · exact hv.setActive (hv.pendingOf_eq_none ha) e
    · exact hv
  | none => exact hv.insertPending ha _

/-- A confirmation of an installed route keeps a table valid. -/
theorem Valid.confirmAdd (hv : t.Valid) (d : IpAddress) (f : Nat) :
    (t.confirmAdd d f).1.Valid := by
  unfold RouteTable.confirmAdd
  split
  · exact hv
  · cases hp : SortedMap.get? d t.pending with
    | some p =>
      dsimp only
      refine (hv.erasePending d).setActive ?_ p.expiration
      simp [pendingOf, SortedMap.get?_erase hv.pending_sorted]
    | none => exact hv.setActive hp f

/-- A report of a removed route keeps a table valid: the destination leaves the active map and
its mark leaves the index before it becomes pending. -/
theorem Valid.confirmDel (hv : t.Valid) (d : IpAddress) : (t.confirmDel d).1.Valid := by
  unfold RouteTable.confirmDel
  cases ha : SortedMap.get? d t.active with
  | none => exact hv
  | some e =>
    refine ⟨hv.pending_sorted.insert _ _, hv.active_sorted.erase _, hv.expiry_sorted.erase _,
      fun x => ?_, fun m => ?_⟩
    · by_cases hx : x = d
      · subst hx
        right
        simp [activeOf, SortedMap.get?_erase hv.active_sorted]
      · simpa [pendingOf, activeOf, SortedMap.get?_insert, SortedMap.get?_erase hv.active_sorted,
          hx] using hv.disjoint x
    · rw [SortedSet.mem_erase hv.expiry_sorted, hv.mem_expiry]
      obtain ⟨me, md⟩ := m
      by_cases hm : md = d
      · subst hm
        simp [activeOf, SortedMap.get?_erase hv.active_sorted, ha, eq_comm]
      · simp [activeOf, SortedMap.get?_erase hv.active_sorted, hm]

/-- A retry pass keeps a table valid: the entries it keeps pending were pending, and the ones it
takes as active are no longer pending when they are moved. -/
theorem Valid.retryPass (hv : t.Valid) (n : Nat) : (t.retryPass n).1.Valid := by
  unfold RouteTable.retryPass
  dsimp only
  apply Valid.foldl_setActive
  · refine hv.withPending ((hv.pending_sorted.filter _).map fun _ => rfl) fun q hq => ?_
    simp only [List.mem_map, List.mem_filter] at hq
    obtain ⟨⟨d, p⟩, ⟨hp, -⟩, rfl⟩ := hq
    exact ⟨p, hp⟩
  · intro m hm
    simp only [List.mem_map, List.mem_filter] at hm
    obtain ⟨⟨d, p⟩, ⟨hp, hexhausted⟩, rfl⟩ := hm
    -- The destination's one entry has run out of retries, so it is not among the kept ones.
    show SortedMap.get? d (List.map _ (List.filter _ t.pending)) = none
    rw [SortedMap.get?_eq_none_iff]
    · intro v hv'
      simp only [List.mem_map, List.mem_filter] at hv'
      obtain ⟨⟨d', p'⟩, ⟨hp', hkept⟩, heq⟩ := hv'
      simp only [Prod.mk.injEq] at heq
      obtain ⟨rfl, -⟩ := heq
      have : p' = p := hv.pending_sorted.eq_of_mem hp' hp
      subst this
      simp only [decide_eq_true_eq] at hkept hexhausted
      omega
    · exact (hv.pending_sorted.filter _).map fun _ => rfl

/-! ## The sweep -/

/-- The table after a sweep, through the marks it removed. -/
theorem sweep_fst (t : RouteTable) (now percent : Nat) :
    (t.sweep now percent).1 = { t with
      active := (t.sweep now percent).2.foldl (fun acc m => SortedMap.erase m.dest acc) t.active,
      expiry := t.expiry.drop (t.sweep now percent).2.length } :=
  rfl

/-- A sweep removes a front part of the expiry index. -/
theorem sweep_removes_front (t : RouteTable) (now percent : Nat) :
    (t.sweep now percent).2 <+: t.expiry :=
  (List.take_prefix _ _).trans (List.takeWhile_prefix _)

/-- Every mark that a sweep removes is due. -/
theorem expiration_le_of_mem_sweep {t : RouteTable} {now percent : Nat} {m : ExpiryMark}
    (hm : m ∈ (t.sweep now percent).2) : m.expiration ≤ now := by
  have hdue := List.all_eq_true.1 List.all_takeWhile m (List.mem_of_mem_take hm)
  simpa using hdue

/-- Removing a front part of the expiry index, with the active entries of its marks, keeps a table
valid. -/
theorem Valid.removeMarks (hv : t.Valid) {removed : List ExpiryMark} (hr : removed <+: t.expiry) :
    ({ t with active := removed.foldl (fun acc m => SortedMap.erase m.dest acc) t.active,
              expiry := t.expiry.drop removed.length } : RouteTable).Valid := by
  have hsplit : removed ++ t.expiry.drop removed.length = t.expiry :=
    List.prefix_iff_eq_append.1 hr
  have hnd := hv.expiry_sorted.nodup
  rw [← hsplit, List.nodup_append] at hnd
  -- The index keeps exactly its marks that were not removed.
  have hrest : ∀ m, m ∈ t.expiry.drop removed.length ↔ m ∈ t.expiry ∧ m ∉ removed := by
    intro m
    constructor
    · intro hm
      refine ⟨hsplit ▸ List.mem_append_right _ hm, fun hm' => hnd.2.2 m hm' m hm rfl⟩
    · rintro ⟨hm, hm'⟩
      rw [← hsplit] at hm
      exact (List.mem_append.1 hm).resolve_left hm'
  have hactive : ∀ x, SortedMap.get? x (removed.foldl (fun acc m => SortedMap.erase m.dest acc)
      t.active) = if ∃ r ∈ removed, r.dest = x then none else t.activeOf x :=
    SortedMap.get?_foldl_erase ExpiryMark.dest removed hv.active_sorted
  refine ⟨hv.pending_sorted, hv.active_sorted.foldl_erase _ _,
    hv.expiry_sorted.sublist (List.drop_sublist _ _), fun x => ?_, fun m => ?_⟩
  · rcases hv.disjoint x with hx | hx
    · exact Or.inl hx
    · right
      show SortedMap.get? x _ = none
      rw [hactive]
      split
      · rfl
      · exact hx
  · rw [hrest]
    show _ ↔ SortedMap.get? m.dest _ = _
    rw [hactive]
    split
    · -- A removed mark of the same destination is the mark itself.
      rename_i hex
      obtain ⟨r, hr', hrd⟩ := hex
      refine iff_of_false (fun ⟨hm, hm'⟩ => hm' ?_) (by simp)
      have : r = m := hv.eq_of_mem_expiry (hsplit ▸ List.mem_append_left _ hr') hm hrd
      exact this ▸ hr'
    · rename_i hex
      rw [← hv.mem_expiry]
      exact ⟨fun h => h.1, fun h => ⟨h, fun hm => hex ⟨m, hm, rfl⟩⟩⟩

/-- A sweep keeps a table valid. -/
theorem Valid.sweep (hv : t.Valid) (now percent : Nat) : (t.sweep now percent).1.Valid := by
  rw [sweep_fst]
  exact hv.removeMarks (sweep_removes_front t now percent)

end Valid

/-- The table's invariant holds of the empty table and is kept by every operation, whatever its
arguments. -/
theorem valid_inductive :
    empty.Valid ∧ ∀ t : RouteTable, t.Valid →
      (∀ d e, (t.request d e).1.Valid) ∧ (∀ d f, (t.confirmAdd d f).1.Valid) ∧
      (∀ d, (t.confirmDel d).1.Valid) ∧ (∀ n, (t.retryPass n).1.Valid) ∧
      (∀ now percent, (t.sweep now percent).1.Valid) :=
  ⟨valid_empty, fun _ hv => ⟨hv.request, hv.confirmAdd, hv.confirmDel, hv.retryPass, hv.sweep⟩⟩

/-- A fresh table after a request, its confirmation and a sweep is valid, each step taken from
the valid table before it. -/
theorem valid_request_confirmAdd_sweep :
    (((empty.request (.ofV4 192 0 2 1) 90).1.confirmAdd (.ofV4 192 0 2 1) 60).1.sweep
      100 25).1.Valid :=
  let h₁ := (valid_inductive.2 _ valid_inductive.1).1 (.ofV4 192 0 2 1) 90
  let h₂ := (valid_inductive.2 _ h₁).2.1 (.ofV4 192 0 2 1) 60
  (valid_inductive.2 _ h₂).2.2.2.2 100 25

end RouteTable

end RouteLease
