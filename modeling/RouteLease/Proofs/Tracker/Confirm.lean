import RouteLease.Proofs.Wire.Decode
import RouteLease.Proofs.Manager.Run
import RouteLease.Tracker

/-!
# Route confirmations

The tracker confirms a route notification only for the daemon's own regular routes. For a route
request that the daemon encodes, the kernel's echo is read back as the route's notification
(`parseDatagram_routeRequest`), and the tracker's check of it comes down to three of the route's
fields: it confirms the route exactly when the route is unicast, leaves through the tracked
interface index and carries the tracker's metric (`confirms_exactly_regular_routes`). The other
fields the check looks at (family, table, scope, protocol) are written the same way for every
route, so they never decide. A blackhole route is never confirmed, and handling a route
notification never changes the tracker.

For the routes that a manager pushes, the output interface is the manager's index and the metric
its configured one, so a tracker with the same metric confirms the regular route exactly when its
index is the manager's (`confirms_pushed_route`).
-/

namespace RouteLease

open Wire

/-- The confirmation that a route operation on `ip` gets from the kernel: an install is
confirmed as added, a withdrawal as removed. -/
def Wire.RouteOp.confirmation : RouteOp → IpAddress → Message
  | .install, ip => .routeAdded ip
  | .withdraw, ip => .routeRemoved ip

namespace TrackedInterface

/-- The notification of a route is one of the daemon's own exactly when the route is unicast,
leaves through the tracked index and carries the tracker's metric. -/
theorem isOwnRoute_event (t : TrackedInterface) (metric : UInt32) (s : RouteSpec) (f : IpFamily) :
    t.isOwnRoute metric (s.event f) = true ↔
      s.kind = .unicast ∧ t.ifindex = some s.oif ∧ s.metric = metric := by
  have hfam : (f.code == 2 || f.code == 10) = true := by cases f <;> rfl
  cases hk : s.kind with
  | blackhole => simp [isOwnRoute, RouteSpec.event, hk, RouteKind.code]
  | unicast =>
    -- the index must be known, and then equal to the route's output interface
    cases hi : t.ifindex with
    | none => simp [isOwnRoute, hi]
    | some i =>
      simp [isOwnRoute, RouteSpec.event, hk, RouteKind.code, hfam, hi]
      exact ⟨fun h => ⟨h.2.symm, h.1⟩, fun h => ⟨h.2, h.1.symm⟩⟩

/-- The confirmation a route's notification gets: the route's own confirmation when the route is
one of the daemon's, none otherwise. -/
theorem routeMessage_event (t : TrackedInterface) (metric : UInt32) {s : RouteSpec} {f : IpFamily}
    (hs : s.Encodable f) :
    t.routeMessage metric (s.event f) =
      if s.kind = .unicast ∧ t.ifindex = some s.oif ∧ s.metric = metric then
        some (s.op.confirmation s.dest)
      else none := by
  have hvalid : s.dest.isValid = true := by
    cases hd : s.dest <;> simp_all [RouteSpec.Encodable, IpAddress.family?, IpAddress.isValid]
  by_cases h : s.kind = .unicast ∧ t.ifindex = some s.oif ∧ s.metric = metric
  · rw [if_pos h, routeMessage, if_pos ((isOwnRoute_event t metric s f).2 h)]
    cases hop : s.op <;> simp [RouteSpec.event, hvalid, hop, RouteOp.change, RouteOp.confirmation]
  · rw [if_neg h, routeMessage, if_neg (mt (isOwnRoute_event t metric s f).1 h)]

/-- The tracker confirms exactly the daemon's own regular routes: every route the daemon can
encode is read back from its octets as one notification, which the tracker confirms (as added for
an install, as removed for a withdrawal) exactly when the route is unicast, leaves through the
tracked index and carries the tracker's metric, and ignores otherwise; the tracker is left as it
was. -/
theorem confirms_exactly_regular_routes {s : RouteSpec} {f : IpFamily} (hs : s.Encodable f)
    (seq : UInt32) (t : TrackedInterface) (metric : UInt32) :
    ∃ bytes ev, encodeRoute s seq = .ok bytes ∧ parseDatagram bytes = [.ok ev] ∧
      t.apply metric ev = .ok (t,
        if s.kind = .unicast ∧ t.ifindex = some s.oif ∧ s.metric = metric then
          some (s.op.confirmation s.dest)
        else none) :=
  ⟨_, _, encodeRoute_eq_ok hs seq, parseDatagram_routeRequest hs seq, by
    rw [apply, routeMessage_event t metric hs]⟩

/-- The echo of a withdrawn regular route through index 3 at metric 100 is confirmed as removed
by a tracker of index 3 and metric 100. -/
theorem confirms_withdrawal_on_tracked_index :
    RouteSpec.Encodable ⟨.withdraw, .unicast, .ofV4 192 0 2 1, 3, 100, none⟩ .v4 ∧
    ∃ bytes ev, encodeRoute ⟨.withdraw, .unicast, .ofV4 192 0 2 1, 3, 100, none⟩ 7 = .ok bytes ∧
      parseDatagram bytes = [.ok ev] ∧
      TrackedInterface.apply { name := "wg0", ifindex := some 3 } 100 ev =
        .ok ({ name := "wg0", ifindex := some 3 },
          if RouteKind.unicast = .unicast ∧ some (3 : UInt32) = some 3 ∧ (100 : UInt32) = 100 then
            some (RouteOp.withdraw.confirmation (.ofV4 192 0 2 1))
          else none) :=
  have hs : RouteSpec.Encodable ⟨.withdraw, .unicast, .ofV4 192 0 2 1, 3, 100, none⟩ .v4 :=
    ⟨by decide, by rintro g - ⟨⟩⟩
  ⟨hs, confirms_exactly_regular_routes hs 7 { name := "wg0", ifindex := some 3 } 100⟩

end TrackedInterface

/-- The regular route of a group leaves through the manager's index with the manager's metric. -/
theorem RoutingManager.oif_metric_of_mem_routeGroup {m : RoutingManager} {d : IpAddress}
    {op : RouteOp} {s : RouteSpec} (h : s ∈ m.routeGroup d op) (hk : s.kind = .unicast) :
    s.oif = m.ifindex ∧ s.metric = m.settings.metric := by
  unfold RoutingManager.routeGroup at h
  split at h
  · simp at h
  · cases op with
    | install =>
      simp only at h
      split at h <;> simp at h <;> rcases h with rfl | rfl <;> simp_all
    | withdraw =>
      simp at h
      rcases h with rfl | rfl <;> simp_all

/-- A manager and a tracker with the same metric agree on the manager's routes: the kernel's echo
of a route the manager pushes is confirmed exactly when it is the regular route and the tracker's
index is the manager's, and the blackhole route is never confirmed. -/
theorem TrackedInterface.confirms_pushed_route {m : RoutingManager} {d : IpAddress} {op : RouteOp}
    {s : RouteSpec} (hs : s ∈ m.routeGroup d op) (seq : UInt32) (t : TrackedInterface) :
    ∃ bytes ev, encodeRoute s seq = .ok bytes ∧ parseDatagram bytes = [.ok ev] ∧
      t.apply m.settings.metric ev = .ok (t,
        if s.kind = .unicast ∧ t.ifindex = some m.ifindex then some (op.confirmation d)
        else none) := by
  obtain ⟨f, hf⟩ := RoutingManager.routeGroup_encodable hs
  obtain ⟨rfl, rfl⟩ := RoutingManager.op_dest_of_mem_routeGroup hs
  refine ⟨_, _, encodeRoute_eq_ok hf seq, parseDatagram_routeRequest hf seq, ?_⟩
  rw [TrackedInterface.apply, TrackedInterface.routeMessage_event t _ hf]
  by_cases hk : s.kind = .unicast
  · obtain ⟨hoif, hmetric⟩ := RoutingManager.oif_metric_of_mem_routeGroup hs hk
    simp [hk, hoif, hmetric]
  · simp [hk]

end RouteLease
