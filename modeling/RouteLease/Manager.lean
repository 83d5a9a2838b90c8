import RouteLease.RouteTable
import RouteLease.Interface
import RouteLease.Message
import RouteLease.Wire.Route

/-!
# The routing manager

The manager turns route requests from DNS answers into kernel routes and retires them once their
time to live, plus a grace period, has passed.

* Every destination first gets a blackhole route at the killswitch metric, so that its traffic
  never leaves by another way; the regular route through the managed interface follows only while
  that interface is routable for the destination's family. It carries the configured gateway of
  the family unless the interface is point-to-point. Withdrawing removes the regular route first,
  so the destination stays blackholed to the end (`RoutingManager.routeGroup`).
* A request for an unknown destination makes it pending and installs its routes; a confirmation
  from the kernel makes it active. Every tick installs the pending routes again until they are
  confirmed or their retries run out, and withdraws the earliest expired active routes, a capped
  share of them per tick (`RoutingManager.tick`).
* A new interface snapshot, and with it a possibly new interface index, installs every pending
  route again.

Messages go out through a route sink, numbered from 1 by a wrapping 32-bit sequence counter; a
manager without a sink keeps its table but sends nothing and numbers nothing. Expirations are
64-bit words, so every sum of times saturates at the largest word.
-/

namespace RouteLease

open Wire

/-- The manager's tunables. -/
structure RouteSettings where
  interface : String
  metric : UInt32
  killswitchMetric : UInt32
  ipv4Gateway : Option (Vector UInt8 4)
  ipv6Gateway : Option (Vector UInt8 16)
  /-- Grace seconds added to every time to live. -/
  extraTtl : Nat
  intervalMs : Nat
  sweepPercent : Nat
  maxRetries : Nat
  /-- Granularity of the stop check between ticks. -/
  sleepStepMs : Nat

/-- The configured gateway of a family. -/
def RouteSettings.gatewayFor (s : RouteSettings) : IpFamily → Option IpAddress
  | .v4 => s.ipv4Gateway.map .v4
  | .v6 => s.ipv6Gateway.map .v6

/-- Addition of 64-bit words that stops at the largest word. -/
def saturatingAdd (a b : Nat) : Nat := min (a + b) wordMax

/-- The kernel side of the route socket: the messages sent to it in order, and the error numbers
of rejected requests that have not been collected yet. -/
structure RouteSink where
  sent : List (List UInt8) := []
  rejected : List Int := []

/-- What one management tick did. -/
structure TickReport where
  retried : Nat
  finalized : Nat
  removed : Nat
  kernelErrors : Nat
  deriving DecidableEq

/-- Whether a tick did nothing at all. -/
def TickReport.isIdle (r : TickReport) : Bool :=
  r.retried == 0 && r.finalized == 0 && r.removed == 0 && r.kernelErrors == 0

/-- The manager's state: its settings, the route table, the last interface snapshot and index,
whether a sink is attached, the sink, and the last sequence number used. -/
structure RoutingManager where
  settings : RouteSettings
  table : RouteTable := RouteTable.empty
  interface : InterfaceConfig := {}
  ifindex : UInt32 := 0
  attached : Bool := false
  sink : RouteSink := {}
  seq : UInt32 := 0

namespace RoutingManager

/-- The manager's worker name. -/
def workerName : String := "routing-manager"

/-- Attaches the sink, with the index of the managed interface. -/
def attach (m : RoutingManager) (ifindex : UInt32) : RoutingManager :=
  { m with attached := true, ifindex }

/-- The kernel rejected requests with these error numbers. -/
def reject (m : RoutingManager) (errnos : List Int) : RoutingManager :=
  { m with sink := { m.sink with rejected := m.sink.rejected ++ errnos } }

/-- Sends one route message through the sink under the next sequence number; without a sink
nothing happens. -/
def send (m : RoutingManager) (spec : RouteSpec) : RoutingManager :=
  if !m.attached then m
  else
    let seq := m.seq + 1
    match encodeRoute spec seq with
    | .ok bytes => { m with seq, sink := { m.sink with sent := m.sink.sent ++ [bytes] } }
    | .error _ => { m with seq }

/-- The routes that installing or withdrawing `dest` sends, in order. An install sends the
blackhole route, then the regular route if the interface is routable for the family; a withdraw
sends the regular route without gateway, then the blackhole route. An invalid destination has
none. -/
def routeGroup (m : RoutingManager) (dest : IpAddress) (op : RouteOp) : List RouteSpec :=
  match dest.family? with
  | none => []
  | some family =>
    let blackhole : RouteSpec :=
      { op, kind := .blackhole, dest, oif := 0, metric := m.settings.killswitchMetric,
        gateway := none }
    let gateway := match op with
      | .install => if m.interface.ptp then none else m.settings.gatewayFor family
      | .withdraw => none
    let regular : RouteSpec :=
      { op, kind := .unicast, dest, oif := m.ifindex, metric := m.settings.metric, gateway }
    match op with
    | .install => if m.interface.isRoutable family then [blackhole, regular] else [blackhole]
    | .withdraw => [regular, blackhole]

/-- Installs or withdraws both routes of `dest`. -/
def pushRoute (m : RoutingManager) (dest : IpAddress) (op : RouteOp) : RoutingManager :=
  (m.routeGroup dest op).foldl send m

/-- A DNS answer for `dest` with a time to live, at time `now`: a valid destination is requested
until `now + ttl` plus the grace period, and a newly pending one is installed. -/
def insert (m : RoutingManager) (now : Nat) (dest : IpAddress) (ttl : Nat) : RoutingManager :=
  if !dest.isValid then m
  else
    let expiration := saturatingAdd (saturatingAdd now ttl) m.settings.extraTtl
    let (table, outcome) := m.table.request dest expiration
    let m := { m with table }
    match outcome with
    | .pending _ => m.pushRoute dest .install
    | .extended .. => m
    | .duplicate _ => m

/-- The kernel confirmed a route to `dest`; a route not asked for is tracked until `now` plus
the grace period. -/
def confirmAdd (m : RoutingManager) (now : Nat) (dest : IpAddress) : RoutingManager :=
  { m with table := (m.table.confirmAdd dest (saturatingAdd now m.settings.extraTtl)).1 }

/-- The kernel removed a route to `dest`. -/
def confirmDel (m : RoutingManager) (dest : IpAddress) : RoutingManager :=
  { m with table := (m.table.confirmDel dest).1 }

/-- A new interface snapshot, with the index that the system now reports for the interface if it
has one: both are kept, and every pending route is installed again. -/
def netdevUpdate (m : RoutingManager) (lookup : Option UInt32) (config : InterfaceConfig) :
    RoutingManager :=
  let m := { m with ifindex := lookup.getD m.ifindex, interface := config }
  m.table.pendingDestinations.foldl (fun m d => m.pushRoute d .install) m

/-- One management cycle at time `now`: collect the kernel's rejections (only through an attached
sink), install again the pending routes with retries left and count the others as active, then
withdraw the earliest expired active routes up to the sweep cap. -/
def tick (m : RoutingManager) (now : Nat) : RoutingManager × TickReport :=
  let (kernelErrors, m) :=
    if m.attached then (m.sink.rejected.length, { m with sink := { m.sink with rejected := [] } })
    else (0, m)
  let (table, pass) := m.table.retryPass m.settings.maxRetries
  let m := pass.retry.foldl (fun m d => m.pushRoute d .install) { m with table }
  let (table, removed) := m.table.sweep now m.settings.sweepPercent
  let m := removed.foldl (fun m mark => m.pushRoute mark.dest .withdraw) { m with table }
  (m, ⟨pass.retry.length, pass.finalized.length, removed.length, kernelErrors⟩)

/-- The kinds of message the manager takes while it has not been stopped. -/
def takes (stopped : Bool) (k : MessageKind) : Bool :=
  !stopped && match k with
    | .shutdown => false
    | _ => true

/-- Handles a message at time `now`, with the interface index the system reports; a shutdown
request is not the manager's business. -/
def receive (m : RoutingManager) (now : Nat) (lookup : Option UInt32) : Message → RoutingManager
  | .netdevUpdate config => m.netdevUpdate lookup config
  | .routeRequest ip ttl => m.insert now ip ttl
  | .routeAdded ip => m.confirmAdd now ip
  | .routeRemoved ip => m.confirmDel ip
  | .shutdown _ => m

end RoutingManager

end RouteLease
