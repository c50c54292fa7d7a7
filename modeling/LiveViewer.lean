import LiveViewer.Text.Blank
import LiveViewer.Text.Printable
import LiveViewer.Text.Quoted
import LiveViewer.Decimal.Shortest
import LiveViewer.Decimal.Style
import LiveViewer.Json.Value
import LiveViewer.Session.Transport
import LiveViewer.Session.Status
import LiveViewer.Session.Request
import LiveViewer.Error
import LiveViewer.Stats.Bitrate
import LiveViewer.LogBook
import LiveViewer.Presentation
import LiveViewer.Json.Error
import LiveViewer.Json.Reader
import LiveViewer.Json.Decode
import LiveViewer.Url.Percent
import LiveViewer.Url.Punycode
import LiveViewer.Url.Domain
import LiveViewer.Url.Host
import LiveViewer.Url.Basic
import LiveViewer.Url.Parse
import LiveViewer.Endpoint
import LiveViewer.Signal.Message
import LiveViewer.Signal.Candidate
import LiveViewer.Config
import LiveViewer.Stats.Stream
import LiveViewer.Signal.Channel
import LiveViewer.Decimal.Read
import LiveViewer.Playlist.Basic
import LiveViewer.Playlist.Parse
import LiveViewer.Peer.Basic
import LiveViewer.Signal.Link
import LiveViewer.Session.Event
import LiveViewer.Controller.Basic
import LiveViewer.Controller.Timers
import LiveViewer.Controller.Release
import LiveViewer.Controller.Connect
import LiveViewer.Controller.Dispatch
import LiveViewer.Controller.Command
import LiveViewer.Network
import LiveViewer.Engine
import LiveViewer.Session.Id
import LiveViewer.Scenario.World
import LiveViewer.Scenario.Run
import LiveViewer.Scenario.Step
import LiveViewer.CommandLine.Grammar
import LiveViewer.CommandLine.Parse
import LiveViewer.CommandLine.Program
import LiveViewer.CommandLine.Report
import LiveViewer.CommandLine.Similar
import LiveViewer.CommandLine.Watch
import LiveViewer.Config.Toml
import LiveViewer.Decimal.Integer
import LiveViewer.Ice.Address
import LiveViewer.Ice.Basic
import LiveViewer.Ice.Candidate
import LiveViewer.Ice.Server
import LiveViewer.Peer.Connection
import LiveViewer.Peer.Offer
import LiveViewer.Sdp.Basic
import LiveViewer.Sdp.Read
import LiveViewer.Toml.Decode
import LiveViewer.Toml.Document
import LiveViewer.Toml.Error
import LiveViewer.Toml.Syntax
import LiveViewer.Toml.Value
import LiveViewer.Decimal.Single
import LiveViewer.Peer.Codec
import LiveViewer.Peer.Error
import LiveViewer.Playlist.Attribute
import LiveViewer.Playlist.Error
import LiveViewer.Playlist.Key
import LiveViewer.Playlist.Master
import LiveViewer.Playlist.Tag
import LiveViewer.Sdp.Extension
import LiveViewer.Text.Bidi
import LiveViewer.Text.Canonical
import LiveViewer.Text.Hex
import LiveViewer.Text.Joining
import LiveViewer.Text.Mark
import LiveViewer.Text.Normal
import LiveViewer.Text.Table
import LiveViewer.Url.IdnaMapping
import LiveViewer.Main
import LiveViewer.Proofs.Controller.Effects
import LiveViewer.Proofs.Controller.Machine
import LiveViewer.Proofs.Controller.Consistency
import LiveViewer.Proofs.Controller.Generation
import LiveViewer.Proofs.Controller.Journal
import LiveViewer.Proofs.Controller.Isolation
import LiveViewer.Proofs.Controller.Reconnect
import LiveViewer.Proofs.Controller.Producers
import LiveViewer.Proofs.Controller.Lifecycle
import LiveViewer.Proofs.Controller.LedgerSteps
import LiveViewer.Proofs.Controller.Sessions
import LiveViewer.Proofs.Controller.Snapshot
import LiveViewer.Proofs.Controller.Inert
import LiveViewer.Proofs.Controller.Transitions
import LiveViewer.Proofs.Json.ReadBack
import LiveViewer.Proofs.Signal.Wire
import LiveViewer.Proofs.Controller.Milestones
import LiveViewer.Proofs.Controller.Bitrate
import LiveViewer.Proofs.Controller.Footprint
import LiveViewer.Proofs.Controller.Negotiation
import LiveViewer.Proofs.Controller.Binding
import LiveViewer.Proofs.Controller.Bootstrap
import LiveViewer.Proofs.Controller.PeerBootstrap
import LiveViewer.Proofs.LogBook
import LiveViewer.Proofs.Signal.Delivery
import LiveViewer.Proofs.Except
import LiveViewer.Proofs.Url.Percent
import LiveViewer.Proofs.Url.Segments
import LiveViewer.Proofs.Endpoint.StreamKey
import LiveViewer.Proofs.Json.Skip
import LiveViewer.Proofs.Signal.Unwrap
import LiveViewer.Proofs.Endpoint.Derivations
import LiveViewer.Proofs.Playlist.Reading
