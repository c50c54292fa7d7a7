import LiveViewer.Config
import LiveViewer.LogBook
import LiveViewer.Session.Event
import LiveViewer.Session.Status
import LiveViewer.Signal.Candidate
import LiveViewer.Signal.Channel
import LiveViewer.Stats.Bitrate

/-!
# The connection controller's state and its collaborators

The controller owns at most one viewing session at a time and processes commands and session
events strictly one after the other. Its state is a `Controller`: the status, the transport of
the last attempt, the generation (bumped by every connect and disconnect, so that events of an
abandoned session are recognised and dropped), the live session with its resources, the stats
sampler and the derived stats, the overlay text, the timers, the log book, and the snapshot it
last published to observers.

Everything outside the controller is reached through `Collaborators W`: a record of functions
on an arbitrary world `W`. The surface, the signaling links, the peer connector, the segment
engine factory, the log sink and the starting and stopping of producers are all there, so the
handlers are pure functions of the controller state and the world, and any answer a
collaborator may give is one choice of `W` and `Collaborators W`.
-/

namespace LiveViewer

/-- The overlay shown while a connection is set up. -/
def connectingOverlay : String := "Connecting..."

/-- The overlay shown once a session ended. -/
def disconnectedOverlay : String := "Disconnected"

/-- The figures shown next to the player; `none` means not available. -/
structure DerivedStats where
  /-- Inbound video bitrate in kilobits per second. -/
  bitrateKbps : Option UInt32 := none
  /-- Viewers of the stream, as the server counts them. -/
  viewerCount : Option UInt32 := none
  /-- Round trip to the server in milliseconds. -/
  latencyMs : Option UInt32 := none
  deriving DecidableEq, Repr, Inhabited

/-- What observers see of the controller. -/
structure Snapshot where
  /-- The session status. -/
  status : Status := .idle
  /-- The transport of the current or last attempt. -/
  transport : Option TransportKind := none
  /-- The derived figures. -/
  stats : DerivedStats := {}
  /-- The overlay text, if one is shown. -/
  overlay : Option String := none
  /-- The current generation. -/
  generation : Nat := 0
  deriving DecidableEq, Repr, Inhabited

/-- The connect or disconnect control that goes with the snapshot's status. -/
def Snapshot.affordance (s : Snapshot) : Affordance := Affordance.ofStatus s.status

/-- How a segmented session feeds the surface. -/
inductive Playback where
  /-- The surface plays the playlist itself. -/
  | native
  /-- Segment engine number `engine` feeds it. -/
  | engine (engine : Nat)
  deriving DecidableEq, Repr, Inhabited

/-- The resources of the live session. -/
structure ActiveSession where
  /-- The generation the session was created in. -/
  generation : Nat
  /-- The validated request it serves. -/
  request : ConnectRequest
  /-- The signaling link's number and the controller's half of it, once open. -/
  signaling : Option (Nat × SignalingChannel) := none
  /-- The peer session's number, once created. -/
  peer : Option Nat := none
  /-- How a segmented session is attached. -/
  playback : Option Playback := none
  /-- The stream bound to the surface, if any. -/
  boundStream : Option String := none
  /-- The producers that belong to the session: opener and pumps. -/
  tasks : List Nat := []
  deriving Repr, Inhabited

/-- The running timers, by producer number. -/
structure Timers where
  /-- The stats timer. -/
  stats : Option Nat := none
  /-- The viewer-count timer. -/
  viewerCount : Option Nat := none
  /-- The reconnect timer and the request it will retry. -/
  reconnect : Option (Nat × ConnectRequest) := none
  deriving DecidableEq, Repr, Inhabited

/-- The controller's state. -/
structure Controller where
  /-- The settings it was started with. -/
  config : ViewerConfig
  /-- The retained log. -/
  logBook : LogBook
  /-- The session status. -/
  status : Status := .idle
  /-- The transport of the current or last attempt. -/
  transport : Option TransportKind := none
  /-- Bumped by every connect and disconnect. -/
  generation : Nat := 0
  /-- The live session. -/
  session : Option ActiveSession := none
  /-- The bitrate sampler. -/
  sampler : Stats.Sampler := {}
  /-- The derived figures. -/
  stats : DerivedStats := {}
  /-- The overlay text. -/
  overlay : Option String := none
  /-- The running timers. -/
  timers : Timers := {}
  /-- The snapshot last published. -/
  published : Snapshot := {}
  /-- Whether the controller still takes commands. -/
  running : Bool := true
  deriving Inhabited

namespace Controller

/-- A controller that has done nothing yet. -/
def start (config : ViewerConfig) : Controller :=
  { config, logBook := LogBook.empty config.logCapacity }

/-- The snapshot of the current fields. -/
def snapshot (k : Controller) : Snapshot :=
  { status := k.status, transport := k.transport, stats := k.stats, overlay := k.overlay,
    generation := k.generation }

end Controller

/-- Everything outside the controller, as functions on a world `W`. -/
structure Collaborators (W : Type) where
  /-- Whether the surface plays playlists itself. -/
  nativeHls : W → Bool
  /-- Shows or hides the surface's overlay. -/
  showOverlay : Option String → W → W
  /-- Tells the surface what to play. -/
  setSource : MediaSource Url → W → W
  /-- Adds a track to the stream the surface plays. -/
  addTrack : RemoteStream → W → W
  /-- Unbinds the surface's media. -/
  clearSource : W → W
  /-- Hands a text frame to signaling link `link`. -/
  sendFrame : (link : Nat) → String → W → W
  /-- Gives up the sending end of signaling link `link`. -/
  dropSender : (link : Nat) → W → W
  /-- Gives up both ends of a signaling link that no pump took over. -/
  dropLink : (link : Nat) → W → W
  /-- Creates a peer session with the given ICE servers, answering its number. -/
  createPeer : List IceServer → W → Except TransportError Nat × W
  /-- Has a peer session create its offer, answering the offer's SDP. -/
  createOffer : (peer : Nat) → W → Except TransportError String × W
  /-- Applies the server's answer to a peer session. -/
  applyAnswer : (peer : Nat) → String → W → Except TransportError Unit × W
  /-- Adds a remote ICE candidate to a peer session. -/
  addCandidate : (peer : Nat) → RemoteCandidate → W → Except TransportError Unit × W
  /-- Closes a peer session. -/
  closePeer : (peer : Nat) → W → W
  /-- The segment engine factory, if there is one: it starts an engine on a playlist and
  answers its number. -/
  startEngine : Option (Url → W → Except TransportError Nat × W)
  /-- Stops a segment engine. -/
  stopEngine : (engine : Nat) → W → W
  /-- Whether a stream information source is there to count viewers. -/
  streamInfo : Bool
  /-- Starts a producer for the given generation, answering its number. -/
  spawn : (generation : Nat) → Producer → W → Nat × W
  /-- Stops a producer. -/
  abort : (task : Nat) → W → W
  /-- The log sink: receives every log entry. -/
  record : LogEntry → W → W

/-- The controller together with the world it acts on. -/
structure Machine (W : Type) where
  /-- The controller's state. -/
  ctl : Controller
  /-- Everything else. -/
  world : W

/-- A step of the controller that may act on the world. -/
abbrev Act (W : Type) := StateM (Machine W)

namespace Act

variable {W : Type} (c : Collaborators W)

/-- Changes the controller's state. -/
def update (f : Controller → Controller) : Act W Unit :=
  modify fun m => { m with ctl := f m.ctl }

/-- The controller's state. -/
def current : Act W Controller := do
  return (← get).ctl

/-- Acts on the world. -/
def touch (f : W → W) : Act W Unit :=
  modify fun m => { m with world := f m.world }

/-- Asks the world, which may change in answering. -/
def ask {α : Type} (f : W → α × W) : Act W α := do
  let m ← get
  let (a, w) := f m.world
  set { m with world := w }
  return a

/-- Appends an entry to the log book and hands it to the sink. -/
def log (level : Level) (message : String) : Act W Unit :=
  modify fun m =>
    let e : LogEntry := ⟨level, message⟩
    { ctl := { m.ctl with logBook := m.ctl.logBook.push e }, world := c.record e m.world }

/-- Publishes the current snapshot to observers. -/
def publish : Act W Unit :=
  update fun k => { k with published := k.snapshot }

/-- Sets the overlay, on the surface and in the state. -/
def setOverlay (overlay : Option String) : Act W Unit :=
  modify fun m => { ctl := { m.ctl with overlay }, world := c.showOverlay overlay m.world }

/-- Starts a producer under the current generation, answering its number. -/
def spawn (p : Producer) : Act W Nat := do
  let m ← get
  let (id, w) := c.spawn m.ctl.generation p m.world
  set { m with world := w }
  return id

/-- Changes the live session, if there is one. -/
def updateSession (f : ActiveSession → ActiveSession) : Act W Unit :=
  update fun k => { k with session := k.session.map f }

/-- Changes the timers. -/
def updateTimers (f : Timers → Timers) : Act W Unit :=
  update fun k => { k with timers := f k.timers }

end Act

end LiveViewer
