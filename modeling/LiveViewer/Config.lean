import LiveViewer.Json.Decode
import LiveViewer.Session.Request

/-!
# Viewer configuration

The settings of a viewer: the stream and server to connect to, the transport, the ICE servers
handed to peer sessions, and the timings of reconnection, statistics and viewer counts. Every
setting has a default, so a configuration text may name any subset of them; the defaults
connect over peer to peer to a local server with four public STUN servers.

In JSON a configuration is an object of its settings under their snake-case names (or an array
of them in order); the transport is written by its configuration name or short label.
-/

namespace LiveViewer

open Json

/-- One ICE server entry: its URLs and optional credentials. -/
structure IceServer where
  /-- The server's URLs. -/
  urls : List String
  /-- The user name for a TURN server. -/
  username : Option String := none
  /-- The credential for a TURN server. -/
  credential : Option String := none
  deriving DecidableEq, Repr, Inhabited

/-- A STUN server reached at `url`, without credentials. -/
def IceServer.stun (url : String) : IceServer := ⟨[url], none, none⟩

/-- The public STUN servers used when none are configured, as one entry. -/
def defaultIceServers : List IceServer :=
  [{ urls := ["stun:stun.l.google.com:19302", "stun:stun1.l.google.com:19302",
              "stun:stun2.l.google.com:19302", "stun:stun3.l.google.com:19302"] }]

/-- A viewer's settings. -/
structure ViewerConfig where
  streamKey : String := ""
  serverEndpoint : String := "http://localhost:8080"
  transport : TransportKind := .peerToPeer
  iceServers : List IceServer := defaultIceServers
  /-- Milliseconds between a transport failure and the automatic reconnect. -/
  reconnectDelayMs : Nat := 3000
  /-- Milliseconds between two statistics readings. -/
  statsIntervalMs : Nat := 1000
  /-- Milliseconds between two viewer counts. -/
  viewerCountIntervalMs : Nat := 5000
  /-- How many log entries are kept. -/
  logCapacity : Nat := 100
  /-- Milliseconds an HTTP request may take. -/
  httpTimeoutMs : Nat := 10000
  deriving DecidableEq, Repr, Inhabited

namespace ViewerConfig

/-- The request that connects to the configured stream. -/
def connectRequest (c : ViewerConfig) : ConnectRequest :=
  ⟨c.streamKey, c.serverEndpoint, c.transport⟩

/-- The statistics period, at least one millisecond. -/
def statsPeriod (c : ViewerConfig) : Nat := max c.statsIntervalMs 1

/-- The viewer count period, at least one millisecond. -/
def viewerCountPeriod (c : ViewerConfig) : Nat := max c.viewerCountIntervalMs 1

/-- An ICE server as a JSON value. -/
def iceServerValue (s : IceServer) : Value :=
  .object [("urls", .array (s.urls.map .string)), ("username", Value.optString s.username),
    ("credential", Value.optString s.credential)]

/-- The configuration as a JSON value, settings in declaration order. -/
def toValue (c : ViewerConfig) : Value :=
  .object [("stream_key", .string c.streamKey), ("server_endpoint", .string c.serverEndpoint),
    ("transport", .string c.transport.configName),
    ("ice_servers", .array (c.iceServers.map iceServerValue)),
    ("reconnect_delay_ms", Value.nat c.reconnectDelayMs),
    ("stats_interval_ms", Value.nat c.statsIntervalMs),
    ("viewer_count_interval_ms", Value.nat c.viewerCountIntervalMs),
    ("log_capacity", Value.nat c.logCapacity), ("http_timeout_ms", Value.nat c.httpTimeoutMs)]

end ViewerConfig

/-- Reads a transport kind: a configuration name or short label, alone or tagging `null`. -/
def TransportKind.decoder : Reader TransportKind :=
  let known := TransportKind.configSpellings.map (·.1)
  let kind (name : String) : TransportKind :=
    ((TransportKind.configSpellings.find? (·.1 == name)).map (·.2)).getD .peerToPeer
  Decode.variant known (fun name => do Decode.unitContent; pure (kind name))
    (fun name => pure (kind name))

/-- Reads an ICE server entry. -/
def IceServer.decoder : Reader IceServer :=
  Decode.record "struct IceServerConfig"
    [{ name := "urls", read := fun s => do return { s with urls := ← Decode.seq Decode.string },
       required := true, positional := true },
     { name := "username",
       read := fun s => do return { s with username := ← Decode.option Decode.string },
       required := false, positional := false },
     { name := "credential",
       read := fun s => do return { s with credential := ← Decode.option Decode.string },
       required := false, positional := false }]
    { urls := [] }

/-- A setting of the configuration: any may be left out. -/
def ViewerConfig.setting (name : String) (read : ViewerConfig → Reader ViewerConfig) :
    Decode.Field ViewerConfig :=
  { name, read, required := false, positional := false }

/-- Reads a configuration; missing settings keep their defaults. -/
def ViewerConfig.decoder : Reader ViewerConfig :=
  Decode.record "struct ViewerConfig"
    [ViewerConfig.setting "stream_key" fun c => do return { c with streamKey := ← Decode.string },
     ViewerConfig.setting "server_endpoint" fun c => do
       return { c with serverEndpoint := ← Decode.string },
     ViewerConfig.setting "transport" fun c => do
       return { c with transport := ← TransportKind.decoder },
     ViewerConfig.setting "ice_servers" fun c => do
       return { c with iceServers := ← Decode.seq IceServer.decoder },
     ViewerConfig.setting "reconnect_delay_ms" fun c => do
       return { c with reconnectDelayMs := ← Decode.u64 },
     ViewerConfig.setting "stats_interval_ms" fun c => do
       return { c with statsIntervalMs := ← Decode.u64 },
     ViewerConfig.setting "viewer_count_interval_ms" fun c => do
       return { c with viewerCountIntervalMs := ← Decode.u64 },
     ViewerConfig.setting "log_capacity" fun c => do
       return { c with logCapacity := ← Decode.usize },
     ViewerConfig.setting "http_timeout_ms" fun c => do
       return { c with httpTimeoutMs := ← Decode.u64 }]
    {}

end LiveViewer
