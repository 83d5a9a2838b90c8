import RouteLease.Address.Text
import RouteLease.Order.Sorted

/-!
# Interface snapshots

What the daemon knows about its managed interface at one moment: whether it is up, whether it is
a point-to-point link, its local addresses, and its remote addresses (the peer of a
point-to-point link, the broadcast address of a broadcast link). Every change returns a new
snapshot.

A route of a family can go through the interface when it is up and either point-to-point, or
has a local address of that family that is not link-local.
-/

namespace RouteLease

/-- A snapshot of the managed interface. Both address sets are sorted and free of duplicates. -/
structure InterfaceConfig where
  up : Bool := false
  ptp : Bool := false
  locals : List IpAddress := []
  remotes : List IpAddress := []
  deriving DecidableEq, Inhabited

namespace InterfaceConfig

/-- The snapshot with a local address added. -/
def addLocal (c : InterfaceConfig) (a : IpAddress) : InterfaceConfig :=
  { c with locals := SortedSet.insert a c.locals }

/-- The snapshot with a local address removed. -/
def delLocal (c : InterfaceConfig) (a : IpAddress) : InterfaceConfig :=
  { c with locals := SortedSet.erase a c.locals }

/-- The snapshot with a remote address added. -/
def addRemote (c : InterfaceConfig) (a : IpAddress) : InterfaceConfig :=
  { c with remotes := SortedSet.insert a c.remotes }

/-- The snapshot with a remote address removed. -/
def delRemote (c : InterfaceConfig) (a : IpAddress) : InterfaceConfig :=
  { c with remotes := SortedSet.erase a c.remotes }

/-- The snapshot with the up/down state replaced. -/
def setState (c : InterfaceConfig) (up : Bool) : InterfaceConfig :=
  { c with up }

/-- The snapshot with the link type replaced. -/
def setType (c : InterfaceConfig) (ptp : Bool) : InterfaceConfig :=
  { c with ptp }

/-- Whether a local address of `family` that is not link-local is assigned. -/
def available (c : InterfaceConfig) (family : IpFamily) : Bool :=
  c.locals.any fun a => a.isOf family && !a.isLinkLocal

/-- Whether a route of `family` can be pushed through the interface: it is up, and it is
point-to-point or has a usable local address of that family. -/
def isRoutable (c : InterfaceConfig) (family : IpFamily) : Bool :=
  c.up && (c.ptp || c.available family)

/-- The one-line description: state, link type, then every local and every remote address. -/
def display (c : InterfaceConfig) : String :=
  (if c.up then "up" else "down") ++ (if c.ptp then " ptp" else " broadcast")
    ++ String.join (c.locals.map fun a => " local=" ++ a.display)
    ++ String.join (c.remotes.map fun a => " remote=" ++ a.display)

end InterfaceConfig

end RouteLease
