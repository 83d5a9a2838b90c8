import RouteLease.Config.Document
import RouteLease.Address.Text
import RouteLease.Manager
import RouteLease.Error

/-!
# The daemon's configuration

The configuration has four sections: the managed interface, the routes' attributes, the
management cycle and the netlink socket. Every field has a default, and a document may leave out
any field or section; keys the configuration does not know are ignored.

A section is read from a table, whose entries are read in the document's order, or from an array
that lists its fields in order. Numbers must fit their width, addresses must be written as text
of their family, and the first value that does not fit is the error.

`DaemonConfig.validate` then checks what a document alone cannot: the interface name fits the
kernel's limit, the killswitch metric lies above the regular one, the grace period is at most a
day, and the cycle's interval, the sweep share and the waits are in range.
-/

namespace RouteLease

namespace Config

/-- The managed interface. -/
structure InterfaceSection where
  name : String := "tun0"
  deriving DecidableEq

/-- The routes' attributes. -/
structure RoutingSection where
  metric : Nat := 100
  killswitchMetric : Nat := 101
  ipv4Gateway : Option (Vector UInt8 4) := none
  ipv6Gateway : Option (Vector UInt8 16) := none
  extraTtlSecs : Nat := 60
  deriving DecidableEq

/-- The management cycle. -/
structure ManagementSection where
  intervalSecs : Nat := 5
  sweepPercent : Nat := 5
  maxRetries : Nat := 10
  sleepStepMs : Nat := 500
  deriving DecidableEq

/-- The netlink socket. -/
structure NetlinkSection where
  pollTimeoutMs : Nat := 500
  recvBufferSize : Nat := 1048576
  deriving DecidableEq

/-- The daemon's configuration. -/
structure DaemonConfig where
  interface : InterfaceSection := {}
  routing : RoutingSection := {}
  management : ManagementSection := {}
  netlink : NetlinkSection := {}
  deriving DecidableEq

/-- The TOML dialect: floating-point numbers written positionally, a null named as the unit value,
and the elements of a sequence beyond a record's fields ignored. -/
def Dialect.toml : Dialect := ⟨Decimal.Binary64.positional, "unit value", false⟩

/-- The JSON dialect: floating-point numbers written compactly, a null named as such, and the
elements of a sequence beyond a record's fields refused. -/
def Dialect.json : Dialect := ⟨Decimal.Binary64.windowed, "null", true⟩

/-- A field of a record: its name in documents, and how a value sets it. -/
structure FieldSpec (α : Type) where
  name : String
  set : Dialect → Value → α → Decoded α

/-- Reads a record named `recordName` from a table, by the names of its fields, or from an array,
by their order; fields left out keep their value in `init`, and elements beyond the fields are an
error if the dialect says so. -/
def decodeRecord {α : Type} (d : Dialect) (recordName : String) (fields : List (FieldSpec α))
    (init : α) (v : Value) : Decoded α :=
  match v with
  | .table _ entries =>
    entries.foldlM (fun acc (k, x) =>
      match fields.find? (fun f => f.name == k) with
      | some f => f.set d x acc
      | none => (checkIgnored x).map fun _ => acc) init
  | .array _ items => do
    let r ← (fields.zip items).foldlM (fun acc (f, x) => f.set d x acc) init
    if d.refusesExtraElements && items.length > fields.length then
      fail v (.invalidLength items.length "fewer elements in array")
    else .ok r
  | _ => wrongType d v ("struct " ++ recordName)

/-- Reads an optional address from text with the reader of its family, named `name`; a null
leaves it out. -/
def decodeGateway {α : Type} (name : String) (read : List Char → Option α) (d : Dialect)
    (v : Value) : Decoded (Option α) :=
  match v with
  | .null _ => .ok none
  | .string _ s =>
    match read s.toList with
    | some a => .ok (some a)
    | none => fail v (.rejected ("invalid " ++ name ++ " address syntax"))
  | _ => wrongType d v (name ++ " address")

/-- The fields of the interface section. -/
def interfaceFields : List (FieldSpec InterfaceSection) :=
  [⟨"name", fun d v s => do pure { s with name := ← decodeString d v }⟩]

/-- The fields of the routing section. -/
def routingFields : List (FieldSpec RoutingSection) :=
  [ ⟨"metric", fun d v s => do pure { s with metric := ← decodeUnsigned d 32 "u32" v }⟩,
    ⟨"killswitch_metric", fun d v s => do
      pure { s with killswitchMetric := ← decodeUnsigned d 32 "u32" v }⟩,
    ⟨"ipv4_gateway", fun d v s => do
      pure { s with ipv4Gateway := ← decodeGateway IpFamily.v4.name IpAddress.readV4Text d v }⟩,
    ⟨"ipv6_gateway", fun d v s => do
      pure { s with ipv6Gateway := ← decodeGateway IpFamily.v6.name IpAddress.readV6Text d v }⟩,
    ⟨"extra_ttl_secs", fun d v s => do
      pure { s with extraTtlSecs := ← decodeUnsigned d 64 "u64" v }⟩ ]

/-- The fields of the management section. -/
def managementFields : List (FieldSpec ManagementSection) :=
  [ ⟨"interval_secs", fun d v s => do
      pure { s with intervalSecs := ← decodeUnsigned d 64 "u64" v }⟩,
    ⟨"sweep_percent", fun d v s => do
      pure { s with sweepPercent := ← decodeUnsigned d 32 "u32" v }⟩,
    ⟨"max_retries", fun d v s => do pure { s with maxRetries := ← decodeUnsigned d 32 "u32" v }⟩,
    ⟨"sleep_step_ms", fun d v s => do
      pure { s with sleepStepMs := ← decodeUnsigned d 64 "u64" v }⟩ ]

/-- The fields of the netlink section. -/
def netlinkFields : List (FieldSpec NetlinkSection) :=
  [ ⟨"poll_timeout_ms", fun d v s => do
      pure { s with pollTimeoutMs := ← decodeUnsigned d 16 "u16" v }⟩,
    ⟨"recv_buffer_size", fun d v s => do
      pure { s with recvBufferSize := ← decodeUnsigned d 64 "usize" v }⟩ ]

/-- The sections of the configuration. -/
def configFields : List (FieldSpec DaemonConfig) :=
  [ ⟨"interface", fun d v c => do
      pure { c with interface := ← decodeRecord d "InterfaceSection" interfaceFields {} v }⟩,
    ⟨"routing", fun d v c => do
      pure { c with routing := ← decodeRecord d "RoutingSection" routingFields {} v }⟩,
    ⟨"management", fun d v c => do
      pure { c with management := ← decodeRecord d "ManagementSection" managementFields {} v }⟩,
    ⟨"netlink", fun d v c => do
      pure { c with netlink := ← decodeRecord d "NetlinkSection" netlinkFields {} v }⟩ ]

/-- Reads the configuration from a document. -/
def DaemonConfig.decode (d : Dialect) (v : Value) : Decoded DaemonConfig :=
  decodeRecord d "DnsRouteConfig" configFields {} v

/-- The longest interface name the kernel takes, in bytes. -/
def maxInterfaceNameBytes : Nat := 15

/-- The longest grace period, in seconds. -/
def maxExtraTtlSecs : Nat := 86400

/-- Checks the configuration, reporting the first rule it breaks. -/
def DaemonConfig.validate (c : DaemonConfig) : Except DaemonError Unit :=
  let name := c.interface.name
  if name.utf8ByteSize = 0 ∨ name.utf8ByteSize > maxInterfaceNameBytes then
    .error (.config ("interface name must be 1-" ++ toString maxInterfaceNameBytes ++
      " bytes, got " ++ quoted name))
  else if c.routing.killswitchMetric ≤ c.routing.metric then
    .error (.config ("killswitch_metric (" ++ toString c.routing.killswitchMetric ++
      ") must exceed metric (" ++ toString c.routing.metric ++ ")"))
  else if c.routing.extraTtlSecs > maxExtraTtlSecs then
    .error (.config ("extra_ttl_secs must be at most " ++ toString maxExtraTtlSecs ++ ", got " ++
      toString c.routing.extraTtlSecs))
  else if c.management.intervalSecs = 0 then
    .error (.config "management interval_secs must be > 0")
  else if c.management.sweepPercent < 1 ∨ c.management.sweepPercent > 100 then
    .error (.config "sweep_percent must be 1-100")
  else if c.management.sleepStepMs = 0 ∨ c.netlink.pollTimeoutMs = 0 then
    .error (.config "sleep_step_ms and poll_timeout_ms must be > 0")
  else .ok ()

/-- The management interval in milliseconds. -/
def DaemonConfig.intervalMs (c : DaemonConfig) : Nat := c.management.intervalSecs * 1000

/-- The manager's settings from the configuration. -/
def DaemonConfig.routeSettings (c : DaemonConfig) : RouteSettings where
  interface := c.interface.name
  metric := c.routing.metric.toUInt32
  killswitchMetric := c.routing.killswitchMetric.toUInt32
  ipv4Gateway := c.routing.ipv4Gateway
  ipv6Gateway := c.routing.ipv6Gateway
  extraTtl := c.routing.extraTtlSecs
  intervalMs := c.intervalMs
  sweepPercent := c.management.sweepPercent
  maxRetries := c.management.maxRetries
  sleepStepMs := c.management.sleepStepMs

/-- The interface tracker's settings: the interface, the metric of the daemon's routes, the
socket's wait and its receive buffer. -/
structure TrackerSettings where
  interface : String
  metric : Nat
  pollTimeoutMs : Nat
  recvBufferSize : Nat

/-- The tracker's settings from the configuration. -/
def DaemonConfig.trackerSettings (c : DaemonConfig) : TrackerSettings :=
  ⟨c.interface.name, c.routing.metric, c.netlink.pollTimeoutMs, c.netlink.recvBufferSize⟩

end Config

/-- Reads an address from a document value: its text, parsed. -/
def IpAddress.decode (d : Config.Dialect) (v : Config.Value) : Config.Decoded IpAddress :=
  match v with
  | .string _ s =>
    match IpAddress.parse s with
    | .ok a => .ok a
    | .error e => Config.fail v (.rejected e.message)
  | _ => Config.wrongType d v "a string"

end RouteLease
