import RouteLease.Proofs.Manager.Run

/-!
# The killswitch order of the message stream

A destination must never be reachable through the managed interface without its blackhole route
under it. The manager keeps that by the order of each push (`killswitchGroup`): an install sends
the blackhole route at the killswitch metric first, and the regular route after it only while the
interface is routable for the family; a withdraw removes the regular route first and the
blackhole route last.

`killswitch_order` shows that the whole stream is made of such groups. Whatever the operation, the
messages it sends are the groups of its pushes one after the other, each group complete and
numbered on from the sequence counter: no route of a group fails to encode, so none is missing.
Installs go only to destinations that are pending after the operation, and withdrawals only to
destinations that a tick found due and forgot.

`requested_entry_blackholed` is about when a destination gets its blackhole route. A destination
enters the table only through a DNS answer, which installs it, or through a confirmation of a
route the manager did not ask for, which sends nothing (`enters_by_insert_or_confirmAdd`). After
an answer the blackhole route has been sent; after an unasked confirmation no install of the
destination is ever sent while it stays active, not even when an answer for it comes later.
-/

namespace RouteLease

open Wire

namespace RoutingManager

/-- The blackhole route of `d` at the killswitch metric. -/
def killswitchRoute (s : RouteSettings) (op : RouteOp) (d : IpAddress) : RouteSpec :=
  { op, kind := .blackhole, dest := d, oif := 0, metric := s.killswitchMetric, gateway := none }

/-- The regular route of `d` through the managed interface at the daemon's metric. -/
def regularRoute (m : RoutingManager) (op : RouteOp) (d : IpAddress)
    (gateway : Option IpAddress) : RouteSpec :=
  { op, kind := .unicast, dest := d, oif := m.ifindex, metric := m.settings.metric, gateway }

/-- One push of `d`, of family `f`, in the killswitch order: an install sends the blackhole route,
then the regular route while the interface is routable for the family, with the family's gateway
unless the link is point-to-point; a withdraw sends the regular route without gateway, then the
blackhole route. -/
def killswitchGroup (m : RoutingManager) (d : IpAddress) (f : IpFamily) : RouteOp → List RouteSpec
  | .install =>
    killswitchRoute m.settings .install d ::
      if m.interface.isRoutable f then
        [regularRoute m .install d (if m.interface.ptp then none else m.settings.gatewayFor f)]
      else []
  | .withdraw => [regularRoute m .withdraw d none, killswitchRoute m.settings .withdraw d]

/-- The routes pushed for an address of a family are that family's killswitch group. -/
theorem routeGroup_eq_killswitchGroup (m : RoutingManager) {d : IpAddress} {f : IpFamily}
    (hf : d.family? = some f) (op : RouteOp) : m.routeGroup d op = killswitchGroup m d f op := by
  unfold routeGroup
  rw [hf]
  cases op with
  | install =>
    by_cases h : m.interface.isRoutable f <;>
      simp [killswitchGroup, killswitchRoute, regularRoute, h]
  | withdraw => rfl

/-- Nothing is pushed for an address of no family. -/
theorem routeGroup_of_family?_eq_none (m : RoutingManager) {d : IpAddress}
    (hf : d.family? = none) (op : RouteOp) : m.routeGroup d op = [] := by
  unfold routeGroup
  rw [hf]

/-- The routes of a list of pushes are the killswitch groups of the pushes of valid
destinations. -/
theorem flatMap_routeGroup (m : RoutingManager) (pushes : List (IpAddress × RouteOp)) :
    pushes.flatMap (fun p => m.routeGroup p.1 p.2) =
      (pushes.filterMap fun p => p.1.family?.map fun f => (p.1, f, p.2)).flatMap
        fun p => killswitchGroup m p.1 p.2.1 p.2.2 := by
  induction pushes with
  | nil => rfl
  | cons p rest ih =>
    cases hf : p.1.family? with
    | none => simp [routeGroup_of_family?_eq_none m hf, ih, hf]
    | some f => simp [routeGroup_eq_killswitchGroup m hf, ih, hf]

/-! ## Entering the table -/

variable {m : RoutingManager}

/-- The sink only ever receives more messages. -/
theorem sent_run_append (hv : m.table.Valid) (ops : List ManagerOp) :
    ∃ msgs, (m.run ops).sink.sent = m.sink.sent ++ msgs := by
  obtain ⟨-, msgs, hs, -⟩ := run_sends_only (fun _ => True) (fun m _ => m.table.Valid)
    (fun m o _ hv => by
      obtain ⟨-, msgs, hs, -⟩ := apply_messages hv o
      exact ⟨valid_apply hv o, msgs, hs, fun _ _ => trivial⟩)
    ops hv
  exact ⟨msgs, hs⟩

/-- Only a destination pending after an operation is installed by it. -/
theorem apply_installs (hv : m.table.Valid) (o : ManagerOp) :
    ∃ msgs, (m.apply o).sink.sent = m.sink.sent ++ msgs ∧
      ∀ msg ∈ msgs, ∀ kind d, IsRouteMessage .install kind d msg →
        ((m.apply o).table.pendingOf d).isSome := by
  obtain ⟨pushes, msgs, hs, hpush, hins, -⟩ := apply_messages hv o
  exact ⟨msgs, hs, fun msg hm kind d hmsg => hins d (hpush msg hm .install kind d hmsg)⟩

/-- A destination enters the table only through a DNS answer for it, or through a confirmation
of it. -/
theorem enters_by_insert_or_confirmAdd (hv : m.table.Valid) (o : ManagerOp) {d : IpAddress}
    (hout : m.table.expirationOf d = none) (hin : ((m.apply o).table.expirationOf d).isSome) :
    (d.isValid = true ∧ ∃ now ttl, o = .insert now d ttl) ∨ ∃ now, o = .confirmAdd now d := by
  cases o with
  | attach ifindex => simp [apply, attach, hout] at hin
  | insert now d' ttl =>
    rw [apply, table_insert] at hin
    split at hin
    · rw [RouteTable.expirationOf_request] at hin
      split at hin
      · subst d
        exact .inl ⟨‹_›, now, ttl, rfl⟩
      · simp [hout] at hin
    · simp [hout] at hin
  | confirmAdd now d' =>
    change ((m.table.confirmAdd d' _).1.expirationOf d).isSome at hin
    rw [hv.expirationOf_confirmAdd] at hin
    split at hin
    · subst d
      exact .inr ⟨now, rfl⟩
    · simp [hout] at hin
  | confirmDel d' =>
    change ((m.table.confirmDel d').1.expirationOf d).isSome at hin
    simp [hv.expirationOf_confirmDel, hout] at hin
  | netdevUpdate lookup config => simp [apply, netdevUpdate, hout] at hin
  | tick now =>
    rw [apply, table_tick, (hv.retryPass _).expirationOf_sweep, hv.expirationOf_retryPass,
      hout] at hin
    simp at hin

/-- With a sink, an answer for a valid destination that is not active sends its blackhole
route. -/
theorem insert_sends_blackhole (ha : m.attached = true) {d : IpAddress} (hd : d.isValid = true)
    (hact : m.table.activeOf d = none) (now ttl : Nat) :
    ∃ msgs, (m.insert now d ttl).sink.sent = m.sink.sent ++ msgs ∧
      ∃ msg ∈ msgs, IsRouteMessage .install .blackhole d msg := by
  have hp : (m.table.request d
      (saturatingAdd (saturatingAdd now ttl) m.settings.extraTtl)).2.isPending :=
    RouteTable.isPending_request_iff.2 hact
  obtain ⟨msgs, hn, hs⟩ := insert_sent m now d ttl
  rw [if_pos ⟨ha, hd, hp⟩] at hn
  obtain ⟨f, hf⟩ : ∃ f, d.family? = some f := by
    cases d <;> simp_all [IpAddress.family?, IpAddress.isValid]
  -- the group starts with the blackhole route, so its request is among the messages
  rw [routeGroup_eq_killswitchGroup m hf, killswitchGroup] at hn
  obtain ⟨msg, hm, k, hk⟩ := hn.exists_msg List.mem_cons_self
  exact ⟨msgs, hs, msg, hm, _, k, rfl, rfl, rfl, hk⟩

/-- An operation after which a destination is active sends no install of it: it installs only
pending destinations, and an active one is not pending. -/
theorem apply_sends_no_install_of_active (hv : m.table.Valid) (o : ManagerOp) {d : IpAddress}
    (hact : ((m.apply o).table.activeOf d).isSome) :
    ∃ msgs, (m.apply o).sink.sent = m.sink.sent ++ msgs ∧
      ∀ msg ∈ msgs, ∀ kind, ¬ IsRouteMessage .install kind d msg := by
  obtain ⟨msgs, hs, hins⟩ := apply_installs hv o
  refine ⟨msgs, hs, fun msg hm kind hmsg => ?_⟩
  obtain ⟨e, he⟩ := Option.isSome_iff_exists.1 hact
  have hp := hins msg hm kind d hmsg
  rw [(valid_apply hv o).pendingOf_eq_none he] at hp
  cases hp

/-- While a destination stays active, no install of it is sent. -/
theorem run_sends_no_install_while_active (hv : m.table.Valid) {d : IpAddress}
    (ops : List ManagerOp)
    (hact : ∀ o l, o :: l <+: ops → ((m.run (o :: l)).table.activeOf d).isSome) :
    ∃ msgs, (m.run ops).sink.sent = m.sink.sent ++ msgs ∧
      ∀ msg ∈ msgs, ∀ kind, ¬ IsRouteMessage .install kind d msg := by
  -- the invariant: a valid table before operations each of which leaves `d` active
  obtain ⟨-, hmsgs⟩ := run_sends_only (fun msg => ∀ kind, ¬ IsRouteMessage .install kind d msg)
    (fun m rest => m.table.Valid ∧
      ∀ o l, o :: l <+: rest → ((m.run (o :: l)).table.activeOf d).isSome)
    (fun m o rest ⟨hv, hact⟩ =>
      ⟨⟨valid_apply hv o, fun o' l hl => hact o (o' :: l) (List.cons_prefix_cons.2 ⟨rfl, hl⟩)⟩,
        apply_sends_no_install_of_active hv o
          (hact o [] (List.cons_prefix_cons.2 ⟨rfl, List.nil_prefix⟩))⟩)
    ops ⟨hv, hact⟩
  exact hmsgs

end RoutingManager

open RoutingManager

/-- The killswitch order of the message stream. In any run of a fresh manager, once a sink is
attached, every operation sends the killswitch groups of a list of pushes of valid destinations,
one after the other, each group complete and numbered on from the sequence counter, under the
settings, the interface and the index the manager has after the operation. Installs go only to
destinations pending after the operation; withdrawals only to destinations that a tick found due
and forgot. -/
theorem killswitch_order (s : RouteSettings) (ops : List ManagerOp) (o : ManagerOp)
    (ha : ((init s).run ops).attached = true) :
    let m := (init s).run ops
    let m' := m.apply o
    ∃ pushes : List (IpAddress × IpFamily × RouteOp),
      Sent m m' (pushes.flatMap fun p => killswitchGroup m' p.1 p.2.1 p.2.2) ∧
      ∀ d f op, (d, f, op) ∈ pushes → d.family? = some f ∧
        (op = .install → (m'.table.pendingOf d).isSome) ∧
        (op = .withdraw → ∃ now e, o = .tick now ∧ m.table.expirationOf d = some e ∧ e ≤ now ∧
          m'.table.expirationOf d = none) := by
  intro m m'
  obtain ⟨pushes, hsent, hins, hwd⟩ := apply_sent (valid_init_run s ops) o
  rw [if_pos ha, flatMap_routeGroup] at hsent
  refine ⟨_, hsent, fun d f op hp => ?_⟩
  -- each push kept is a push of the operation, of a destination with its family
  obtain ⟨⟨d', op'⟩, hp', h⟩ := List.mem_filterMap.1 hp
  obtain ⟨f', hf', he⟩ := Option.map_eq_some_iff.1 h
  simp only [Prod.mk.injEq] at he
  obtain ⟨rfl, rfl, rfl⟩ := he
  exact ⟨hf', fun hop => hins _ (hop ▸ hp'), fun hop => hwd _ (hop ▸ hp')⟩

/-- With the sink attached at index 7, an answer for 192.0.2.1 at clock reading 0 sends the
killswitch group of the destination. -/
theorem killswitch_order_after_answer :
    let s : RouteSettings :=
      { interface := "eth0", metric := 100, killswitchMetric := 101, ipv4Gateway := none,
        ipv6Gateway := none, extraTtl := 60, intervalMs := 5000, sweepPercent := 5,
        maxRetries := 10, sleepStepMs := 500 }
    ((init s).run [.attach 7]).attached = true ∧
      let m := (init s).run [.attach 7]
      let o : ManagerOp := .insert 0 (.ofV4 192 0 2 1) 30
      let m' := m.apply o
      ∃ pushes : List (IpAddress × IpFamily × RouteOp),
        Sent m m' (pushes.flatMap fun p => killswitchGroup m' p.1 p.2.1 p.2.2) ∧
        ∀ d f op, (d, f, op) ∈ pushes → d.family? = some f ∧
          (op = .install → (m'.table.pendingOf d).isSome) ∧
          (op = .withdraw → ∃ now e, o = .tick now ∧ m.table.expirationOf d = some e ∧
            e ≤ now ∧ m'.table.expirationOf d = none) :=
  ⟨rfl, killswitch_order _ [.attach 7] (.insert 0 (.ofV4 192 0 2 1) 30) rfl⟩

/-- When a destination gets its blackhole route, in a run of a fresh manager whose sink is
attached first. If `d` enters the table through an operation other than a confirmation of it,
that is through a DNS answer, the blackhole route of `d` has been sent from then on. If `d` enters
through a confirmation and stays active, no install of `d` is ever sent, not even for a later
answer: an answer for an active destination only extends it. -/
theorem requested_entry_blackholed (s : RouteSettings) (k : UInt32) (pre post : List ManagerOp)
    (o : ManagerOp) (d : IpAddress) :
    let m := (init s).run (.attach k :: pre)
    m.table.expirationOf d = none → ((m.apply o).table.expirationOf d).isSome →
      ((∀ now, o ≠ .confirmAdd now d) →
        ∃ msgs, ((m.apply o).run post).sink.sent = m.sink.sent ++ msgs ∧
          ∃ msg ∈ msgs, IsRouteMessage .install .blackhole d msg) ∧
      ((∀ l, l <+: post → (((m.apply o).run l).table.activeOf d).isSome) →
        ∃ msgs, ((m.apply o).run post).sink.sent = m.sink.sent ++ msgs ∧
          ∀ msg ∈ msgs, ∀ kind, ¬ IsRouteMessage .install kind d msg) := by
  intro m hout hin
  have hv : m.table.Valid := valid_init_run s _
  have ha : m.attached = true := attached_run rfl pre
  refine ⟨fun hnc => ?_, fun hact => ?_⟩
  · -- the entry is an answer, which found `d` inactive and installed it
    obtain ⟨hd, now, ttl, rfl⟩ | ⟨now, rfl⟩ := enters_by_insert_or_confirmAdd hv o hout hin
    · obtain ⟨msgs₁, hs₁, msg, hm, hmsg⟩ :=
        insert_sends_blackhole ha hd (RouteTable.expirationOf_eq_none_iff.1 hout).1 now ttl
      obtain ⟨msgs₂, hs₂⟩ := sent_run_append (valid_apply hv (.insert now d ttl)) post
      exact ⟨msgs₁ ++ msgs₂, by rw [hs₂]; exact hs₁ ▸ List.append_assoc _ _ _, msg,
        List.mem_append_left _ hm, hmsg⟩
    · exact absurd rfl (hnc now)
  · exact run_sends_no_install_while_active hv (o :: post) fun o' l hl => by
      obtain ⟨ho, hl'⟩ := List.cons_prefix_cons.1 hl
      subst ho
      exact hact l hl'

/-- A confirmation of `1.2.3.4` that the manager did not ask for, and then a DNS answer for it:
the destination enters the table by the confirmation and stays active, and the sink never
receives an install of it, the blackhole route included. -/
theorem confirmed_entry_never_blackholed :
    let s : RouteSettings :=
      { interface := "eth0", metric := 100, killswitchMetric := 101, ipv4Gateway := none,
        ipv6Gateway := none, extraTtl := 60, intervalMs := 5000, sweepPercent := 5,
        maxRetries := 10, sleepStepMs := 500 }
    let m := (init s).run [.attach 7]
    let d := IpAddress.ofV4 1 2 3 4
    let m' := m.apply (.confirmAdd 0 d)
    m.table.expirationOf d = none ∧ (m'.table.expirationOf d).isSome ∧
      (∀ l, l <+: [.insert 0 d 30] → ((m'.run l).table.activeOf d).isSome) ∧
      ∃ msgs, (m'.run [.insert 0 d 30]).sink.sent = m.sink.sent ++ msgs ∧
        ∀ msg ∈ msgs, ∀ kind, ¬ IsRouteMessage .install kind d msg :=
  have hact : ∀ l, l <+: [ManagerOp.insert 0 (.ofV4 1 2 3 4) 30] → _ := fun l ⟨r, hr⟩ => by
    -- the prefixes of a run of one operation are the empty run and the run itself
    rcases List.append_eq_singleton_iff.1 hr with ⟨rfl, -⟩ | ⟨rfl, -⟩ <;> decide
  ⟨by decide, by decide, hact, (requested_entry_blackholed _ 7 [] [.insert 0 (.ofV4 1 2 3 4) 30]
    (.confirmAdd 0 (.ofV4 1 2 3 4)) _ (by decide) (by decide)).2 hact⟩

end RouteLease
