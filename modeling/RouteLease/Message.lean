import RouteLease.Interface

/-!
# Messages

What the daemon's components tell each other through the broker: a shutdown request with its exit
code, a new interface snapshot, a route request from a DNS answer with its TTL, and the kernel's
confirmation that one of the daemon's routes was added or removed.
-/

namespace RouteLease

/-- The kind of a message, which subscribers filter on. -/
inductive MessageKind where
  | shutdown
  | netdevUpdate
  | routeRequest
  | routeAdded
  | routeRemoved
  deriving DecidableEq, Repr

/-- A message between components. -/
inductive Message where
  | shutdown (exitCode : Int)
  | netdevUpdate (config : InterfaceConfig)
  | routeRequest (ip : IpAddress) (ttl : Nat)
  | routeAdded (ip : IpAddress)
  | routeRemoved (ip : IpAddress)
  deriving DecidableEq

namespace Message

/-- The kind of a message. -/
def kind : Message → MessageKind
  | shutdown _ => .shutdown
  | netdevUpdate _ => .netdevUpdate
  | routeRequest .. => .routeRequest
  | routeAdded _ => .routeAdded
  | routeRemoved _ => .routeRemoved

/-- The one-line text of a message. -/
def display : Message → String
  | shutdown code => "shutdown(ec=" ++ toString code ++ ")"
  | netdevUpdate c => "netdev-update(" ++ c.display ++ ")"
  | routeRequest ip ttl => "route-request(" ++ ip.display ++ ", ttl=" ++ toString ttl ++ ")"
  | routeAdded ip => "route-added(" ++ ip.display ++ ")"
  | routeRemoved ip => "route-removed(" ++ ip.display ++ ")"

end Message

/-- The latch of a shutdown request: the first exit code asked for is kept. -/
structure ShutdownLatch where
  code : Option Int := none
  deriving DecidableEq

namespace ShutdownLatch

/-- Asks for shutdown with `code`; only the first request counts. Returns whether this request
was the first. -/
def request (l : ShutdownLatch) (code : Int) : ShutdownLatch × Bool :=
  match l.code with
  | some _ => (l, false)
  | none => ({ code := some code }, true)

/-- Whether shutdown was asked for. -/
def isRequested (l : ShutdownLatch) : Bool :=
  l.code.isSome

/-- The exit code asked for first, 0 when none was. -/
def exitCode (l : ShutdownLatch) : Int :=
  l.code.getD 0

/-- The latch takes shutdown messages only. -/
def accepts (k : MessageKind) : Bool :=
  k == .shutdown

/-- Hands a message to the latch: a shutdown message asks for shutdown, others are ignored. -/
def receive (l : ShutdownLatch) : Message → ShutdownLatch
  | .shutdown code => (l.request code).1
  | _ => l

end ShutdownLatch

end RouteLease
