import RouteLease.Interface
import RouteLease.Message
import RouteLease.Error
import RouteLease.Order.Sorted
import RouteLease.Wire.Decode

/-!
# Interface tracking

The tracker mirrors the kernel's view of the managed interface from link, address and route
notifications.

* A link notification carrying the interface's name teaches the tracker the interface index; one
  that carries another name for that index means the interface was renamed away, so the index is
  forgotten and the interface counts as down. A kept link sets the state (up when running) and the
  type (point-to-point or broadcast); a deleted one forgets the index.
* An address notification for the tracked index and an IP family adds or removes a local address
  and the broadcast or peer address announced with it. The tracker remembers which remote address
  each local address announced, so a remote shared by several locals stays until the last of them
  is gone.
* A route notification for one of the daemon's own routes (main table, static protocol, unicast,
  universe scope, the daemon's metric, the tracked interface) confirms that route.

`TrackedInterface.apply` handles one notification and returns the message to publish: a new
snapshot only when it differs from the old one. `TrackedInterface.handleDatagram` handles a
datagram's notifications in order and stops at the end of a dump, at the first malformed message
and at the first error report.
-/

namespace RouteLease

open Wire

/-- What the tracker knows of the managed interface: its name, its index once learned, its
snapshot, and the remote address that each local address announced, by local address. -/
structure TrackedInterface where
  name : String
  ifindex : Option UInt32 := none
  config : InterfaceConfig := {}
  remotes : List (IpAddress × IpAddress) := []
  deriving DecidableEq

namespace TrackedInterface

/-- Replaces the snapshot; the new snapshot is published only when it differs from the old. -/
def update (t : TrackedInterface) (next : InterfaceConfig) : TrackedInterface × Option Message :=
  if next = t.config then (t, none) else ({ t with config := next }, some (.netdevUpdate next))

/-- A link notification for the tracked interface: a new link sets the state and the type, a
deleted one forgets the index and sets the state down. -/
def applyOwnLink (t : TrackedInterface) (e : LinkEvent) : TrackedInterface × Option Message :=
  match e.change with
  | .new => t.update ((t.config.setState e.running).setType e.pointToPoint)
  | .del => { t with ifindex := none }.update (t.config.setState false)

/-- A link notification. The interface's own name teaches its index; another name on the tracked
index means the interface was renamed away; a nameless notification counts only for the tracked
index. -/
def applyLink (t : TrackedInterface) (e : LinkEvent) : TrackedInterface × Option Message :=
  let tracked := t.ifindex == some e.index
  match e.name with
  | some n =>
    if n = t.name then { t with ifindex := some e.index }.applyOwnLink e
    else if tracked then { t with ifindex := none }.update (t.config.setState false)
    else (t, none)
  | none => if tracked then t.applyOwnLink e else (t, none)

end TrackedInterface

/-- The local address of an address notification and the remote address announced with it. With
both a local address and a different address, the address is the peer of a point-to-point link;
otherwise the remote is the broadcast address, and without a local address the address is the
local one. -/
def Wire.AddressEvent.endpoints (e : AddressEvent) : Option IpAddress × Option IpAddress :=
  match e.localAddr, e.addr with
  | some l, some p => if p ≠ l then (some l, some p) else (some l, e.broadcast)
  | some l, none => (some l, e.broadcast)
  | none, a => (a, e.broadcast)

namespace TrackedInterface

/-- Drops `remote` from a snapshot unless some local address in `remotes` still announces it. -/
def releaseRemote (remotes : List (IpAddress × IpAddress)) (next : InterfaceConfig)
    (remote : IpAddress) : InterfaceConfig :=
  if remotes.any (fun p => p.2 == remote) then next else next.delRemote remote

/-- A new address: the valid local address is added, and so is the valid remote, which replaces
the remote that the local address announced before; the replaced remote is released. -/
def addAddress (t : TrackedInterface) (localAddr remote : Option IpAddress) :
    TrackedInterface × Option Message :=
  let localAddr := localAddr.filter IpAddress.isValid
  let next := match localAddr with
    | some ip => t.config.addLocal ip
    | none => t.config
  match remote.filter IpAddress.isValid with
  | none => t.update next
  | some ip =>
    let next := next.addRemote ip
    match localAddr with
    | none => t.update next
    | some l =>
      let remotes := SortedMap.insert l ip t.remotes
      let next := match SortedMap.get? l t.remotes with
        | some old => releaseRemote remotes next old
        | none => next
      { t with remotes }.update next

/-- A deleted address: the local address is removed, and the remote it announced, or else the
notification's remote, is released. -/
def deleteAddress (t : TrackedInterface) (localAddr remote : Option IpAddress) :
    TrackedInterface × Option Message :=
  let next := match localAddr with
    | some ip => t.config.delLocal ip
    | none => t.config
  let (announced, remotes) := match localAddr with
    | some ip => (SortedMap.get? ip t.remotes, SortedMap.erase ip t.remotes)
    | none => (none, t.remotes)
  let next := match announced.or remote with
    | some ip => releaseRemote remotes next ip
    | none => next
  { t with remotes }.update next

/-- An address notification; only one for the tracked index and an IP family counts. -/
def applyAddress (t : TrackedInterface) (e : AddressEvent) : TrackedInterface × Option Message :=
  if some e.index ≠ t.ifindex then (t, none)
  else if e.family ≠ 2 ∧ e.family ≠ 10 then (t, none)
  else
    let (l, r) := e.endpoints
    match e.change with
    | .new => t.addAddress l r
    | .del => t.deleteAddress l r

/-- Whether a route notification is for one of the daemon's own routes: an IP family, the main
table, universe scope, unicast, the static protocol, the daemon's `metric`, and the tracked
interface. -/
def isOwnRoute (t : TrackedInterface) (metric : UInt32) (e : RouteEvent) : Bool :=
  (e.family == 2 || e.family == 10) && e.table == 254 && e.scope == 0 && e.routeType == 1
    && e.protocol == 4 && e.priority == some metric && t.ifindex.isSome && e.oif == t.ifindex

/-- The confirmation that a route notification gives: an own route to a valid destination was
added or removed. -/
def routeMessage (t : TrackedInterface) (metric : UInt32) (e : RouteEvent) : Option Message :=
  if t.isOwnRoute metric e then
    (e.dest.filter IpAddress.isValid).map fun ip =>
      match e.change with
      | .new => .routeAdded ip
      | .del => .routeRemoved ip
  else none

/-- Handles one notification: the next state and the message to publish. An error report with a
nonzero number is the kernel's error; everything else that is not a link, address or route
notification changes nothing. -/
def apply (t : TrackedInterface) (metric : UInt32) :
    KernelEvent → Except DaemonError (TrackedInterface × Option Message)
  | .link e => .ok (t.applyLink e)
  | .address e => .ok (t.applyAddress e)
  | .route e => .ok (t, t.routeMessage metric e)
  | .error errno => if errno ≠ 0 then .error (.kernel errno) else .ok (t, none)
  | .done => .ok (t, none)
  | .other _ => .ok (t, none)

/-- What handling a datagram leaves: the tracker's state, the messages published in order, and
the result. -/
structure DatagramOutcome where
  state : TrackedInterface
  published : List Message
  result : Except DaemonError Unit

/-- Handles the items of a datagram in order, stopping at the end of a dump, at a malformed
message and at a kernel error; only the kernel error makes the result an error. -/
def handleItems (t : TrackedInterface) (metric : UInt32) :
    List (Except CodecError KernelEvent) → DatagramOutcome
  | [] => ⟨t, [], .ok ()⟩
  | .error _ :: _ => ⟨t, [], .ok ()⟩
  | .ok .done :: _ => ⟨t, [], .ok ()⟩
  | .ok ev :: rest =>
    match t.apply metric ev with
    | .error e => ⟨t, [], .error e⟩
    | .ok (t', m) =>
      let o := t'.handleItems metric rest
      { o with published := m.toList ++ o.published }

/-- Handles one received datagram. -/
def handleDatagram (t : TrackedInterface) (metric : UInt32) (datagram : List UInt8) :
    DatagramOutcome :=
  t.handleItems metric (parseDatagram datagram)

end TrackedInterface

/-- The interface tracker as a worker: the metric of the daemon's routes, the tracked state, and
whether its notification socket has been opened. -/
structure InterfaceTracker where
  metric : UInt32
  state : TrackedInterface
  socketOpen : Bool := false

namespace InterfaceTracker

/-- The tracker's worker name. -/
def workerName : String := "netdev-tracker"

/-- A tracker for the interface `name` that has not been initialized: no index, an empty
snapshot, and no socket. -/
def create (name : String) (metric : UInt32) : InterfaceTracker :=
  { metric, state := { name } }

/-- Handles one datagram, keeping the new state. -/
def handleDatagram (w : InterfaceTracker) (datagram : List UInt8) :
    InterfaceTracker × List Message × Except DaemonError Unit :=
  let o := w.state.handleDatagram w.metric datagram
  ({ w with state := o.state }, o.published, o.result)

/-- Starting the worker without a socket fails, and the failure is published as a shutdown with
the error's exit code. With a socket the worker handles datagrams until it is stopped, which
ends without error. -/
def run (w : InterfaceTracker) : List Message × Except DaemonError Unit :=
  if w.socketOpen then ([], .ok ())
  else
    let e := DaemonError.worker workerName "started before initialize"
    ([.shutdown e.exitCode], .error e)

end InterfaceTracker

end RouteLease
