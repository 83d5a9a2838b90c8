import RouteLease.Proofs.Manager.Run

/-!
# No route is withdrawn before its time

A DNS answer for `d` with time to live `ttl` at clock reading `t` asks the manager to keep `d` until
`E = min (t + ttl + extraTtl) (2^64 - 1)`: the manager's two saturating additions are one clamped
sum (`saturatingAdd_saturatingAdd`). `expiration_held_until_due` shows that it keeps `d` that long,
whatever happens in the meantime: until the first tick that reads the clock at `E` or later, `d`
stays in the table with an expiration of `E` or later, and no withdrawal of `d` reaches the sink.

The argument is an invariant of one destination along the operations that follow the answer.
Every operation keeps or raises the expiration recorded for a destination, unless it is a tick
that finds the destination due and forgets it (`expirationOf_apply`), and only such a tick sends a
withdrawal of it (`apply_withdraws`). So while the ticks read the clock below `E`, an expiration of
`E` or later is never dropped and never withdrawn (`run_holds_expiration`); the answer itself
records at least `E` (`expirationOf_insert`).
-/

namespace RouteLease

open Wire

/-- Two saturating additions are one clamped sum. -/
theorem saturatingAdd_saturatingAdd (a b c : Nat) :
    saturatingAdd (saturatingAdd a b) c = min (a + b + c) wordMax := by
  unfold saturatingAdd
  omega

namespace RoutingManager

variable {m : RoutingManager}

/-- An answer for a valid destination records an expiration of at least its time to live and the
grace period after the clock reading. -/
theorem expirationOf_insert (m : RoutingManager) {d : IpAddress} (hd : d.isValid = true)
    (now ttl : Nat) :
    ∃ e, (m.insert now d ttl).table.expirationOf d = some e ∧
      min (now + ttl + m.settings.extraTtl) wordMax ≤ e := by
  rw [table_insert, if_pos hd, RouteTable.expirationOf_request, if_pos rfl,
    saturatingAdd_saturatingAdd]
  exact ⟨_, rfl, Nat.le_max_right _ _⟩

/-- An operation keeps or raises the expiration recorded for a destination, or it is a tick at
which the destination is due and that forgets it. -/
theorem expirationOf_apply (hv : m.table.Valid) (o : ManagerOp) {x : IpAddress} {e : Nat}
    (hx : m.table.expirationOf x = some e) :
    (∃ e', (m.apply o).table.expirationOf x = some e' ∧ e ≤ e') ∨
      ∃ now, o = .tick now ∧ e ≤ now ∧ (m.apply o).table.expirationOf x = none := by
  cases o with
  | attach ifindex => exact .inl ⟨e, hx, Nat.le_refl e⟩
  | insert now d ttl =>
    left
    rw [apply, table_insert]
    split
    · rw [RouteTable.expirationOf_request]
      split
      · -- the later of the two expirations
        subst x
        rw [hx]
        exact ⟨_, rfl, Nat.le_max_left _ _⟩
      · exact ⟨e, hx, Nat.le_refl e⟩
    · exact ⟨e, hx, Nat.le_refl e⟩
  | confirmAdd now d =>
    left
    show ∃ e', (m.table.confirmAdd d _).1.expirationOf x = some e' ∧ e ≤ e'
    rw [hv.expirationOf_confirmAdd]
    split
    · subst x
      rw [hx]
      exact ⟨e, rfl, Nat.le_refl e⟩
    · exact ⟨e, hx, Nat.le_refl e⟩
  | confirmDel d =>
    exact .inl ⟨e, (hv.expirationOf_confirmDel d x).trans hx, Nat.le_refl e⟩
  | netdevUpdate lookup config =>
    exact .inl ⟨e, by simpa [apply, netdevUpdate] using hx, Nat.le_refl e⟩
  | tick now =>
    have hvp := hv.retryPass m.settings.maxRetries
    rw [apply, table_tick, hvp.expirationOf_sweep, hv.expirationOf_retryPass]
    split
    · -- the sweep removed the mark of `x`, which carried its expiration
      rename_i hex
      obtain ⟨r, hr, rfl⟩ := hex
      have he : m.table.expirationOf r.dest = some r.expiration := by
        rw [← hv.expirationOf_retryPass]
        exact hvp.expirationOf_of_mem_sweep hr
      rw [hx, Option.some.injEq] at he
      subst he
      exact .inr ⟨now, rfl, RouteTable.expiration_le_of_mem_sweep hr, rfl⟩
    · exact .inl ⟨e, hx, Nat.le_refl e⟩

/-- Only a tick at which a destination is due sends a withdrawal of it. -/
theorem apply_withdraws (hv : m.table.Valid) (o : ManagerOp) :
    ∃ msgs, (m.apply o).sink.sent = m.sink.sent ++ msgs ∧
      ∀ msg ∈ msgs, ∀ kind d, IsRouteMessage .withdraw kind d msg →
        ∃ now e, o = .tick now ∧ m.table.expirationOf d = some e ∧ e ≤ now := by
  obtain ⟨pushes, msgs, hs, hpush, -, hwd⟩ := apply_messages hv o
  refine ⟨msgs, hs, fun msg hm kind d hmsg => ?_⟩
  obtain ⟨now, e, ho, he, hle, -⟩ := hwd d (hpush msg hm .withdraw kind d hmsg)
  exact ⟨now, e, ho, he, hle⟩

/-- The step lemma: an operation that is not a tick reading the clock at `E` or later keeps a
destination recorded until `E` or later, and sends no withdrawal of it. -/
theorem apply_holds_expiration (hv : m.table.Valid) {d : IpAddress} {E e : Nat}
    (he : m.table.expirationOf d = some e) (hE : E ≤ e) (o : ManagerOp)
    (hlt : ∀ now, o = .tick now → now < E) :
    (∃ e', (m.apply o).table.expirationOf d = some e' ∧ E ≤ e') ∧
      ∃ msgs, (m.apply o).sink.sent = m.sink.sent ++ msgs ∧
        ∀ msg ∈ msgs, ∀ kind, ¬ IsRouteMessage .withdraw kind d msg := by
  -- a tick that forgets or withdraws `d` finds it due, so it reads the clock at `e ≥ E`
  refine ⟨?_, ?_⟩
  · rcases expirationOf_apply hv o he with ⟨e', he', hle⟩ | ⟨now, rfl, hle, -⟩
    · exact ⟨e', he', Nat.le_trans hE hle⟩
    · have := hlt now rfl
      omega
  · obtain ⟨msgs, hs, hw⟩ := apply_withdraws hv o
    refine ⟨msgs, hs, fun msg hm kind hmsg => ?_⟩
    obtain ⟨now, e₀, rfl, he₀, hle⟩ := hw msg hm kind d hmsg
    rw [he, Option.some.injEq] at he₀
    have := hlt now rfl
    omega

/-- Along operations whose ticks all read the clock below `E`, a destination recorded until `E`
or later stays recorded until `E` or later, and no withdrawal of it is sent. -/
theorem run_holds_expiration (hv : m.table.Valid) {d : IpAddress} {E e : Nat}
    (he : m.table.expirationOf d = some e) (hE : E ≤ e) (ops : List ManagerOp)
    (hticks : ∀ now, ManagerOp.tick now ∈ ops → now < E) :
    (∃ e', (m.run ops).table.expirationOf d = some e' ∧ E ≤ e') ∧
      ∃ msgs, (m.run ops).sink.sent = m.sink.sent ++ msgs ∧
        ∀ msg ∈ msgs, ∀ kind, ¬ IsRouteMessage .withdraw kind d msg := by
  -- the invariant: a valid table holding `d` until `E` or later, before ticks that read below `E`
  obtain ⟨⟨-, hkeep, -⟩, hmsgs⟩ := run_sends_only
    (fun msg => ∀ kind, ¬ IsRouteMessage .withdraw kind d msg)
    (fun m rest => m.table.Valid ∧ (∃ e, m.table.expirationOf d = some e ∧ E ≤ e) ∧
      ∀ now, ManagerOp.tick now ∈ rest → now < E)
    (fun m o rest ⟨hv, ⟨e, he, hE⟩, hticks⟩ => by
      obtain ⟨hkeep, hmsgs⟩ := apply_holds_expiration hv he hE o
        fun now h => hticks now (h ▸ List.mem_cons_self)
      exact ⟨⟨valid_apply hv o, hkeep, fun now h => hticks now (List.mem_cons_of_mem _ h)⟩,
        hmsgs⟩)
    ops ⟨hv, ⟨e, he, hE⟩, hticks⟩
  exact ⟨hkeep, hmsgs⟩

end RoutingManager

open RoutingManager

/-- A route is kept until its expiration. After a DNS answer for a valid `d` with time to live
`ttl` at clock reading `t`, in any run of a fresh manager, and up to the first tick that reads the
clock at `E = min (t + ttl + extraTtl) (2^64 - 1)` or later, `d` stays in the table with an
expiration of at least `E`, and no withdrawal of `d` is sent. And no operation lowers a recorded
expiration: it is kept or raised, unless a tick finds it due and forgets the destination. -/
theorem expiration_held_until_due (s : RouteSettings) (pre post : List ManagerOp) (t ttl : Nat)
    (d : IpAddress) (hd : d.isValid = true)
    (hpost : ∀ now, ManagerOp.tick now ∈ post → now < min (t + ttl + s.extraTtl) wordMax) :
    let m := (init s).run pre
    let m' := (m.apply (.insert t d ttl)).run post
    ((∃ e, m'.table.expirationOf d = some e ∧ min (t + ttl + s.extraTtl) wordMax ≤ e) ∧
      ∃ msgs, m'.sink.sent = m.sink.sent ++ msgs ∧
        ∀ msg ∈ msgs, ∀ kind, ¬ IsRouteMessage .withdraw kind d msg) ∧
    ∀ (ops : List ManagerOp) (o : ManagerOp) (x : IpAddress) (e : Nat),
      ((init s).run ops).table.expirationOf x = some e →
      (∃ e', (((init s).run ops).apply o).table.expirationOf x = some e' ∧ e ≤ e') ∨
        ∃ now, o = .tick now ∧ e ≤ now ∧
          (((init s).run ops).apply o).table.expirationOf x = none := by
  intro m m'
  have hv : m.table.Valid := valid_init_run s pre
  have hsettings : m.settings = s := settings_run (init s) pre
  -- the answer records at least `E`, and sends installs only
  obtain ⟨e, he, hE⟩ := expirationOf_insert m hd t ttl
  rw [hsettings] at hE
  obtain ⟨hkeep, msgs₂, hs₂, hno₂⟩ :=
    run_holds_expiration (valid_apply hv (.insert t d ttl)) he hE post hpost
  obtain ⟨msgs₁, hs₁, hw⟩ := apply_withdraws hv (.insert t d ttl)
  refine ⟨⟨hkeep, msgs₁ ++ msgs₂, by rw [hs₂, hs₁, List.append_assoc], ?_⟩,
    fun ops o x e hx => expirationOf_apply (valid_init_run s ops) o hx⟩
  intro msg hm kind hmsg
  rcases List.mem_append.1 hm with hm | hm
  · obtain ⟨now, e₀, ho, -⟩ := hw msg hm kind d hmsg
    cases ho
  · exact hno₂ msg hm kind hmsg

/-- With the default tunables, an answer with time to live 30 at clock reading 0, after a sink is
attached, is kept through a tick at clock reading 30. -/
theorem expiration_held_through_early_tick :
    let s : RouteSettings :=
      { interface := "eth0", metric := 100, killswitchMetric := 101, ipv4Gateway := none,
        ipv6Gateway := none, extraTtl := 60, intervalMs := 5000, sweepPercent := 5,
        maxRetries := 10, sleepStepMs := 500 }
    (IpAddress.ofV4 192 0 2 1).isValid = true ∧
      (∀ now, ManagerOp.tick now ∈ [ManagerOp.tick 30] → now < min (0 + 30 + s.extraTtl) wordMax) ∧
      (let m := (init s).run [.attach 7]
       let m' := (m.apply (.insert 0 (.ofV4 192 0 2 1) 30)).run [.tick 30]
       ((∃ e, m'.table.expirationOf (.ofV4 192 0 2 1) = some e ∧
          min (0 + 30 + s.extraTtl) wordMax ≤ e) ∧
        ∃ msgs, m'.sink.sent = m.sink.sent ++ msgs ∧
          ∀ msg ∈ msgs, ∀ kind, ¬ IsRouteMessage .withdraw kind (.ofV4 192 0 2 1) msg) ∧
       ∀ (ops : List ManagerOp) (o : ManagerOp) (x : IpAddress) (e : Nat),
        ((init s).run ops).table.expirationOf x = some e →
        (∃ e', (((init s).run ops).apply o).table.expirationOf x = some e' ∧ e ≤ e') ∨
          ∃ now, o = .tick now ∧ e ≤ now ∧
            (((init s).run ops).apply o).table.expirationOf x = none) :=
  have hpost : ∀ now, ManagerOp.tick now ∈ [ManagerOp.tick 30] →
      now < min (0 + 30 + 60) wordMax := by
    intro now h
    simp only [List.mem_singleton, ManagerOp.tick.injEq] at h
    subst h
    decide
  ⟨rfl, hpost, expiration_held_until_due _ [.attach 7] [.tick 30] 0 30 _ rfl hpost⟩

end RouteLease
