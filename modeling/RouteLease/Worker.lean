import RouteLease.Error

/-!
# Workers

A worker is a long-running part of the daemon with a thread of its own. It watches a shutdown
token and returns once the token is cancelled, or earlier on a fatal error. Joining a worker gives
its result; a worker whose thread panicked joins as the error `Worker <name>: thread panicked`.

`WorkerBody` describes how a worker's body ends, `WorkerBody.finish` says where it stands under a
token, and `ThreadEnd.join` turns the end of its thread into the result of joining it.
-/

namespace RouteLease

/-- The cooperative stop request shared by a worker and its owner. -/
structure ShutdownToken where
  /-- Whether a stop has been requested. -/
  cancelled : Bool := false
  deriving DecidableEq, Inhabited

/-- Requests a stop; the request cannot be taken back. -/
def ShutdownToken.cancel (_ : ShutdownToken) : ShutdownToken := ⟨true⟩

/-- How the body of a worker ends. -/
inductive WorkerBody where
  /-- Returns at once without error. -/
  | succeed
  /-- Returns at once with the error. -/
  | fail (error : DaemonError)
  /-- Panics. -/
  | panic
  /-- Waits until a stop is requested, then returns without error. -/
  | untilStopped

/-- How a worker's thread ended. -/
inductive ThreadEnd where
  /-- The body returned this result. -/
  | returned (result : Except DaemonError Unit)
  /-- The body panicked. -/
  | panicked

/-- Where a worker's body stands under a token: how its thread ended, or `none` while it still
runs. Only a body that waits for a stop depends on the token. -/
def WorkerBody.finish (token : ShutdownToken) : WorkerBody → Option ThreadEnd
  | .succeed => some (.returned (.ok ()))
  | .fail e => some (.returned (.error e))
  | .panic => some .panicked
  | .untilStopped => if token.cancelled then some (.returned (.ok ())) else none

/-- The result of joining the thread of the worker `name`. -/
def ThreadEnd.join (name : String) : ThreadEnd → Except DaemonError Unit
  | .returned r => r
  | .panicked => .error (.worker name "thread panicked")

/-- The result of stopping a worker and joining it: the token is cancelled first, so every body
has ended by then. -/
def WorkerBody.stopAndJoin (name : String) (body : WorkerBody) : Except DaemonError Unit :=
  match body.finish (ShutdownToken.cancel {}) with
  | some finished => finished.join name
  | none => .ok ()

end RouteLease
