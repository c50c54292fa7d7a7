import LiveViewer.Controller.Command

/-!
# A recording world for the controller

A world in which the controller's collaborators are stand-ins that answer as they are told and
record every call, and in which the controller's producers run on a single cooperative
scheduler with a virtual clock.

The stand-ins:

* the surface records overlay, source, track and clear calls, and plays playlists itself when
  told to;
* the signaling connector records every open; it fails with a given text when told to,
  otherwise it makes a new link, numbered from zero. The server end of a link knows whether the
  controller still holds its sending end and whether anything still reads what it delivers;
* the peer connector numbers the peer sessions it created from zero; each call (create, offer,
  answer, candidate) may be told to fail, with an invalid-candidate error carrying a text or as
  if the session were closed. The offer of peer `i` is `v=0`, an origin line with session id
  `i`, and `a=recvonly`;
* the segment engine factory numbers the engines it started from zero, and fails with a
  playlist error when told to;
* the stream information source counts the calls and answers the viewer count it was given,
  or an HTTP status error.

The scheduler keeps the producers by number, a queue of work ready to run (first in, first
out), and the controller's inbox. A started producer is polled once soon: the opener opens its
link and reports; a timer that is due fires (a periodic timer is due at once, the reconnect
timer after its delay). Delivering an event to the inbox wakes the controller, which then
handles every waiting event in order.
-/

namespace LiveViewer.Scenario

/-- How a stand-in call is told to fail: with the given text as an invalid ICE candidate, or,
without a text, as if the peer session were closed. -/
def faultError : Option String → TransportError
  | some message => .candidate message
  | none => .closed

/-- The peer calls that can be told to fail. -/
inductive PeerCallKind where
  | create
  | offer
  | answer
  | candidate
  deriving DecidableEq, Repr, Inhabited

/-- Which peer calls fail, and how. -/
structure PeerFaults where
  /-- Creating a peer session. -/
  create : Option (Option String) := none
  /-- Creating the offer. -/
  offer : Option (Option String) := none
  /-- Applying the answer. -/
  answer : Option (Option String) := none
  /-- Adding a remote candidate. -/
  candidate : Option (Option String) := none
  deriving DecidableEq, Repr, Inhabited

namespace PeerFaults

/-- How a call of kind `k` fails, if it does. -/
def get (f : PeerFaults) : PeerCallKind → Option (Option String)
  | .create => f.create
  | .offer => f.offer
  | .answer => f.answer
  | .candidate => f.candidate

/-- The faults with calls of kind `k` set to fail as `fault` says. -/
def set (f : PeerFaults) (k : PeerCallKind) (fault : Option (Option String)) : PeerFaults :=
  match k with
  | .create => { f with create := fault }
  | .offer => { f with offer := fault }
  | .answer => { f with answer := fault }
  | .candidate => { f with candidate := fault }

end PeerFaults

/-- The server end of a signaling link. -/
structure LinkEnd where
  /-- Whether the controller still holds the sending end. -/
  senderHeld : Bool := true
  /-- Whether anything still reads what the server delivers. -/
  listened : Bool := true
  deriving DecidableEq, Repr, Inhabited

/-- A stand-in peer session. -/
structure PeerEnd where
  /-- What reading its inbound counters answers. -/
  report : Option InboundReport := none
  /-- Whether the controller still listens to it. -/
  listened : Bool := true
  deriving Inhabited

/-- A call on the surface. -/
inductive SurfaceCall where
  | overlay (text : Option String)
  | setSource (source : MediaSource Url)
  | addTrack (stream : RemoteStream)
  | clearSource
  deriving Repr, Inhabited

/-- A call on the peer connector or a peer session. -/
inductive PeerCall where
  | create (peer : Nat) (iceServers : List IceServer)
  | createFailed
  | createOffer (peer : Nat)
  | applyAnswer (peer : Nat) (sdp : String)
  | addCandidate (peer : Nat) (candidate : RemoteCandidate)
  | close (peer : Nat)
  deriving Repr, Inhabited

/-- A call on the segment engine factory or an engine. -/
inductive EngineCall where
  | start (engine : Nat) (manifest : Url)
  | startFailed (manifest : Url)
  | stop (engine : Nat)
  deriving Repr, Inhabited

/-- What a viewer is shown: a log entry or a surface call. -/
inductive Shown where
  | log (entry : LogEntry)
  | surface (call : SurfaceCall)
  deriving Inhabited

/-- What the stand-ins recorded. -/
structure Trace where
  /-- Log entries the sink received and surface calls, in the order they came. -/
  shown : Array Shown := #[]
  /-- URLs the signaling connector was asked to open. -/
  opens : Array Url := #[]
  /-- Text frames the controller sent, with the link's number. -/
  sent : Array (Nat × String) := #[]
  /-- Peer calls. -/
  peerCalls : Array PeerCall := #[]
  /-- Segment engine calls. -/
  engineCalls : Array EngineCall := #[]
  deriving Inhabited

/-- The log entries the sink received. -/
def Trace.logs (t : Trace) : Array LogEntry :=
  t.shown.filterMap fun | .log e => some e | .surface _ => none

/-- The surface calls. -/
def Trace.surface (t : Trace) : Array SurfaceCall :=
  t.shown.filterMap fun | .surface c => some c | .log _ => none

/-- A started producer. -/
structure Task where
  /-- Its number. -/
  id : Nat
  /-- The generation its events carry. -/
  generation : Nat
  /-- What it does. -/
  producer : Producer
  /-- For a timer, when it fires next. -/
  due : Option Nat := none
  deriving Inhabited

/-- Work ready to run. -/
inductive Job where
  /-- The controller handles its inbox. -/
  | controller
  /-- Producer `id` is polled. -/
  | task (id : Nat)
  deriving DecidableEq, Repr, Inhabited

/-- The stand-ins, the scheduler and the record of calls. -/
structure World where
  /-- Whether the surface plays playlists itself. -/
  nativeHls : Bool := false
  /-- The text signaling opens fail with, if they fail. -/
  signalingFailure : Option String := none
  /-- Which peer calls fail. -/
  peerFaults : PeerFaults := {}
  /-- The text engine starts fail with, if they fail. -/
  engineFailure : Option String := none
  /-- The viewer count answered, or the HTTP status of the failure. -/
  viewers : Except Nat UInt32 := .ok 7
  /-- The links opened, by number. -/
  links : Array LinkEnd := #[]
  /-- The peer sessions created, by number. -/
  peers : Array PeerEnd := #[]
  /-- For each engine started, whether the controller still listens to it. -/
  engines : Array Bool := #[]
  /-- How often the stream information source was asked. -/
  infoRequests : Nat := 0
  /-- The virtual time in milliseconds. -/
  clock : Nat := 0
  /-- The number the next producer gets. -/
  nextTask : Nat := 0
  /-- The running producers. -/
  tasks : List Task := []
  /-- Work ready to run, first in first out. -/
  ready : List Job := []
  /-- Events waiting for the controller. -/
  inbox : List SessionEvent := []
  /-- What the stand-ins recorded. -/
  trace : Trace := {}
  deriving Inhabited

namespace World

/-- Changes the record. -/
def note (f : Trace → Trace) (w : World) : World := { w with trace := f w.trace }

/-- Records a surface call. -/
def noteSurface (call : SurfaceCall) (w : World) : World :=
  w.note fun t => { t with shown := t.shown.push (.surface call) }

/-- Records a peer call. -/
def notePeer (call : PeerCall) (w : World) : World :=
  w.note fun t => { t with peerCalls := t.peerCalls.push call }

/-- Records a segment engine call. -/
def noteEngine (call : EngineCall) (w : World) : World :=
  w.note fun t => { t with engineCalls := t.engineCalls.push call }

/-- Changes the server end of link `i`. -/
def updateLink (i : Nat) (f : LinkEnd → LinkEnd) (w : World) : World :=
  { w with links := w.links.modify i f }

/-- Changes peer session `i`. -/
def updatePeer (i : Nat) (f : PeerEnd → PeerEnd) (w : World) : World :=
  { w with peers := w.peers.modify i f }

/-- The offer of peer session `i`. -/
def offerSdp (i : Nat) : String :=
  "v=0\r\no=- " ++ toString i ++ " 0 IN IP4 0.0.0.0\r\na=recvonly\r\n"

/-- A peer call of kind `k`, failing when it is told to. -/
def peerAnswer {α : Type} (k : PeerCallKind) (ok : α) (w : World) : Except TransportError α :=
  match w.peerFaults.get k with
  | some fault => .error (faultError fault)
  | none => .ok ok

/-- Creates a peer session. -/
def createPeer (servers : List IceServer) (w : World) : Except TransportError Nat × World :=
  match w.peerFaults.create with
  | some fault => (.error (faultError fault), w.notePeer .createFailed)
  | none =>
    let i := w.peers.size
    (.ok i, ({ w with peers := w.peers.push {} }).notePeer (.create i servers))

/-- Starts a segment engine on `manifest`. -/
def startEngine (manifest : Url) (w : World) : Except TransportError Nat × World :=
  match w.engineFailure with
  | some message =>
    (.error (.engine (.playlistParse message)), w.noteEngine (.startFailed manifest))
  | none =>
    let j := w.engines.size
    (.ok j, ({ w with engines := w.engines.push true }).noteEngine (.start j manifest))

/-- The controller stops reading what a producer forwarded. -/
def unlisten (p : Producer) (w : World) : World :=
  match p with
  | .linkPump l => w.updateLink l fun e => { e with listened := false }
  | .peerPump i => w.updatePeer i fun e => { e with listened := false }
  | .enginePump (some j) => { w with engines := w.engines.modify j fun _ => false }
  | _ => w

/-- Starts a producer: it is polled once soon. -/
def spawn (generation : Nat) (p : Producer) (w : World) : Nat × World :=
  let id := w.nextTask
  let due := match p with
    | .statsTimer .. | .viewerTimer .. => some w.clock
    | .reconnectTimer delay => some (w.clock + delay)
    | _ => none
  let t : Task := { id := id, generation := generation, producer := p, due := due }
  (id, { w with
    nextTask := id + 1
    tasks := w.tasks ++ [t]
    ready := w.ready ++ [.task id] })

/-- Stops a producer; one that already finished is left alone. -/
def abort (id : Nat) (w : World) : World :=
  match w.tasks.find? (·.id == id) with
  | none => w
  | some t =>
    unlisten t.producer
      { w with tasks := w.tasks.filter (·.id != id), ready := w.ready.filter (· != .task id) }

/-- The world's stand-ins as the controller's collaborators, with or without a segment engine
factory and a stream information source. -/
def collaborators (engines streamInfo : Bool) : Collaborators World where
  nativeHls w := w.nativeHls
  showOverlay text := noteSurface (.overlay text)
  setSource source := noteSurface (.setSource source)
  addTrack stream := noteSurface (.addTrack stream)
  clearSource := noteSurface .clearSource
  sendFrame link frame := note fun t => { t with sent := t.sent.push (link, frame) }
  dropSender link := updateLink link fun e => { e with senderHeld := false }
  dropLink link := updateLink link fun _ => { senderHeld := false, listened := false }
  createPeer := createPeer
  createOffer i w := (w.peerAnswer .offer (offerSdp i), w.notePeer (.createOffer i))
  applyAnswer i sdp w := (w.peerAnswer .answer (), w.notePeer (.applyAnswer i sdp))
  addCandidate i cand w := (w.peerAnswer .candidate (), w.notePeer (.addCandidate i cand))
  closePeer i := notePeer (.close i)
  startEngine := if engines then some startEngine else none
  stopEngine j := noteEngine (.stop j)
  streamInfo := streamInfo
  spawn := spawn
  abort := abort
  record e := note fun t => { t with shown := t.shown.push (.log e) }

end World

end LiveViewer.Scenario
