import RouteLease.Address.Basic
import RouteLease.Address.Text
import RouteLease.Wire.Bytes
import RouteLease.Wire.Error
import RouteLease.Wire.Route
import RouteLease.Wire.Event
import RouteLease.Wire.Utf8
import RouteLease.Wire.Attr
import RouteLease.Wire.Body.Link
import RouteLease.Wire.Body.Address
import RouteLease.Wire.Body.Route
import RouteLease.Wire.Body.Neighbour
import RouteLease.Wire.Body.Rule
import RouteLease.Wire.Body.Nsid
import RouteLease.Wire.Body.TrafficControl
import RouteLease.Wire.Decode
import RouteLease.Order.Sorted
import RouteLease.Interface
import RouteLease.RouteTable
import RouteLease.Message
import RouteLease.Clock
import RouteLease.Errno
import RouteLease.Error
import RouteLease.Worker
import RouteLease.Tracker
import RouteLease.Broker
import RouteLease.Broker.Recorder
import RouteLease.Manager
import RouteLease.Daemon
import RouteLease.Text.Printable
import RouteLease.Text.Quoted
import RouteLease.Decimal.Shortest
import RouteLease.Config.Document
import RouteLease.Config.Json
import RouteLease.Config.Toml.Token
import RouteLease.Config.Toml.Error
import RouteLease.Config.Toml.Syntax
import RouteLease.Config.Toml.Strings
import RouteLease.Config.Toml.Datetime
import RouteLease.Config.Toml.Scalar
import RouteLease.Config.Toml.Table
import RouteLease.Config.Schema
import RouteLease.Config.Load
import RouteLease.Cli.Args
import RouteLease.Cli.Launch
import RouteLease.Main
import RouteLease.Proofs.Order
import RouteLease.Proofs.Sorted
import RouteLease.Proofs.RouteTable.Invariant
import RouteLease.Proofs.Wire.Encode
import RouteLease.Proofs.RouteTable.Lifetime
import RouteLease.Proofs.Manager.Run
import RouteLease.Proofs.Manager.Expiration
import RouteLease.Proofs.Manager.Killswitch
import RouteLease.Proofs.Wire.Decode
import RouteLease.Proofs.Tracker.Confirm
import RouteLease.Proofs.Tracker.State
import RouteLease.Proofs.Broker.Publish
import RouteLease.Proofs.RouteTable.Slot
import RouteLease.Proofs.Manager.Interleaving
import RouteLease.Proofs.RouteTable.Sweep
import RouteLease.Proofs.RouteTable.Retry
import RouteLease.Proofs.Wire.Layout
import RouteLease.Proofs.Manager.Ticks
import RouteLease.Proofs.Wire.Framing
import RouteLease.Proofs.Tracker.Datagram
import RouteLease.Proofs.Wire.Builder
import RouteLease.Proofs.Address.Numerals
import RouteLease.Proofs.Address.RoundTrip
