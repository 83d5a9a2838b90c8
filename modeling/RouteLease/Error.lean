import RouteLease.Errno
import RouteLease.Wire.Error

/-!
# Daemon errors

Every failure the daemon reports is one `DaemonError`: a failed socket operation, a message that
could not be built or read, an error the kernel sent back, a missing interface, a bad
configuration, a worker that broke, or another operating-system failure.

Each error has a text (`DaemonError.message`) and the exit code that a shutdown caused by it
carries (`DaemonError.exitCode`): an operating-system failure and a kernel error exit with their
error number, every other error with 1.
-/

namespace RouteLease

open Wire

/-- A failure of the daemon, by cause. -/
inductive DaemonError where
  /-- A socket operation described by `context` failed with error number `errno`. -/
  | netlink (context : String) (errno : Int)
  /-- A message could not be built or read. -/
  | codec (cause : CodecError)
  /-- The kernel answered a request with error number `errno`. -/
  | kernel (errno : Int)
  /-- No interface has the name. -/
  | interfaceNotFound (name : String)
  /-- The configuration is unusable, for the reason given. -/
  | config (reason : String)
  /-- A worker's life went wrong. -/
  | worker (name message : String)
  /-- Another operating-system operation failed with error number `errno`. -/
  | io (errno : Int)

namespace DaemonError

/-- The text of an error. -/
def message : DaemonError → String
  | netlink context errno => "Netlink error: " ++ context ++ ": " ++ Errno.report errno
  | codec cause => "Netlink codec error: " ++ cause.message
  | kernel errno => "Kernel returned netlink error " ++ toString errno
  | interfaceNotFound name => "Interface not found: " ++ name
  | config reason => "Configuration error: " ++ reason
  | worker name msg => "Worker " ++ name ++ ": " ++ msg
  | io errno => "IO error: " ++ Errno.report errno

/-- The exit code of a shutdown caused by the error: the error number of an operating-system
failure or a kernel error, and 1 for every other error. -/
def exitCode : DaemonError → Int
  | netlink _ errno => errno
  | kernel errno => errno
  | io errno => errno
  | _ => 1

/-- The name of the error's cause, as reports label it. -/
def kindName : DaemonError → String
  | netlink .. => "Netlink"
  | codec _ => "Codec"
  | kernel _ => "Kernel"
  | interfaceNotFound _ => "InterfaceNotFound"
  | config _ => "Config"
  | worker .. => "Worker"
  | io _ => "Io"

end DaemonError

end RouteLease
