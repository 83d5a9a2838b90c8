import RouteLease.Broker
import RouteLease.Manager
import RouteLease.Clock
import RouteLease.Worker

/-!
# The daemon's message flow

The daemon's broker has two listeners, registered in this order: the shutdown handler, which
latches the first shutdown request, and the routing manager, which takes interface snapshots,
route requests and route confirmations until its worker is stopped.

`Daemon` holds what the listeners act on, together with what the manager reads from outside: the
clock, the stop token of its worker, and the interfaces that the system reports by name. The
manager's worker ticks once per interval while the clock stands still; `Daemon.runManager` runs it
until a goal is met or a tick changes nothing, for no more ticks than fit in the wait, and then
stops it.
-/

namespace RouteLease

/-- The daemon's listeners on the broker. -/
inductive Listener where
  | shutdownHandler
  | routingManager
  deriving DecidableEq

/-- The daemon's state: the shutdown latch, the routing manager, the manager's stop token, the
clock, and the system's interfaces with their indexes. -/
structure Daemon where
  latch : ShutdownLatch := {}
  manager : RoutingManager
  token : ShutdownToken := {}
  clock : ManualClock := {}
  interfaces : List (String × UInt32) := []

namespace Daemon

/-- The clock's reading in seconds. -/
def now (d : Daemon) : Nat := d.clock.now.toNat

/-- The index that the system reports for the managed interface, if it has one. -/
def lookup (d : Daemon) : Option UInt32 :=
  (d.interfaces.find? fun e => e.1 == d.manager.settings.interface).map Prod.snd

/-- Hands a message to the manager directly. -/
def deliver (d : Daemon) (m : Message) : Daemon :=
  { d with manager := d.manager.receive d.now d.lookup m }

/-- How the broker drives the daemon's listeners; neither publishes while handling. -/
def dispatch : Dispatch Listener Daemon where
  ready
    | .shutdownHandler, k, _ => ShutdownLatch.accepts k
    | .routingManager, k, d => RoutingManager.takes d.token.cancelled k
  handle
    | _, .shutdownHandler, m, d => ({ d with latch := d.latch.receive m }, [])
    | _, .routingManager, m, d => (d.deliver m, [])
  senders := []

/-- The daemon's broker: the shutdown handler first, then the manager. -/
def broker : Broker Listener :=
  { subscribers := [.shutdownHandler, .routingManager] }

/-- Publishes a message on the daemon's broker: the new state and how many listeners took it. -/
def publish (d : Daemon) (sender : SenderId) (m : Message) : Daemon × Nat :=
  let ((_, d'), n) := Broker.publish dispatch sender m broker d
  (d', n)

/-- Moves the clock forward, wrapping. -/
def advance (d : Daemon) (secs : UInt64) : Daemon := { d with clock := d.clock.advance secs }

/-- Sets the clock. -/
def setClock (d : Daemon) (secs : UInt64) : Daemon := { d with clock := d.clock.set secs }

/-- Stops the manager's worker: it takes no more messages. -/
def cancel (d : Daemon) : Daemon := { d with token := d.token.cancel }

/-- One management tick at the clock's time. -/
def tick (d : Daemon) : Daemon × TickReport :=
  let (m, r) := d.manager.tick d.now
  ({ d with manager := m }, r)

/-- Ticks at most `ticks` times until `goal` holds or a tick does nothing; the result says whether
`goal` holds at the end. -/
def tickUntil (goal : Daemon → Bool) : (ticks : Nat) → Daemon → Daemon × Bool
  | 0, d => (d, goal d)
  | ticks + 1, d =>
    if goal d then (d, true)
    else
      let (d', r) := d.tick
      if r.isIdle then (d', goal d') else tickUntil goal ticks d'

/-- Runs the manager's worker for a wait of `waitMs` milliseconds or until `goal` holds, then
stops and joins it. A stopped worker does not tick; a running one ticks once per interval. The
result is the state, whether `goal` held, and the join's result. -/
def runManager (d : Daemon) (waitMs : Nat) (goal : Daemon → Bool) :
    Daemon × Bool × Except DaemonError Unit :=
  let ticks := if d.token.cancelled then 0 else waitMs / max 1 d.manager.settings.intervalMs
  let (d', reached) := tickUntil goal ticks d
  (d'.cancel, reached, WorkerBody.untilStopped.stopAndJoin RoutingManager.workerName)

end Daemon

end RouteLease
