import LiveViewer.Engine
import LiveViewer.Error
import LiveViewer.Peer.Basic
import LiveViewer.Session.Request
import LiveViewer.Signal.Link
import LiveViewer.Url.Basic

/-!
# Session events and the work that produces them

The controller never waits on its collaborators in the background itself. It starts
*producers* — the signaling opener, pumps that forward what a signaling link, a peer session or
a segment engine reports, two periodic timers and the reconnect timer — and each producer
delivers *session events* to the controller's queue. Every event carries the generation that
was current when its producer was started, so that the controller can drop what an abandoned
session still delivers.

Links, peer sessions and segment engines are known to the controller by the numbers the world
gave them when they were made.
-/

namespace LiveViewer

/-- What happened to a session. -/
inductive EventKind where
  /-- The signaling connect attempt to `url` finished, with the number of the new link. -/
  | signalingOpened (url : Url) (result : Except SignalingError Nat)
  /-- The signaling link delivered something. -/
  | link (event : LinkEvent)
  /-- The peer session reported something. -/
  | peer (event : PeerEvent)
  /-- The segment engine reported something. -/
  | engine (event : EngineEvent)
  /-- A stats tick read the peer's inbound counters. -/
  | statsReport (report : Option InboundReport)
  /-- A viewer-count tick asked the server, with the count or the failure's text. -/
  | viewerCount (result : Except String UInt32)
  /-- The reconnect delay is over. -/
  | reconnectDue
  deriving Inhabited

/-- An event with the generation it belongs to. -/
structure SessionEvent where
  /-- The generation current when the event's producer was started. -/
  generation : Nat
  /-- What happened. -/
  kind : EventKind
  deriving Inhabited

/-- Background work the controller starts. -/
inductive Producer where
  /-- Opens the signaling link at `url` and reports the outcome once. -/
  | opener (url : Url)
  /-- Forwards what link `link` delivers, until it reports that it is gone. -/
  | linkPump (link : Nat)
  /-- Forwards what peer session `peer` reports. -/
  | peerPump (peer : Nat)
  /-- Forwards what segment engine `engine` reports; with no engine it ends at once. -/
  | enginePump (engine : Option Nat)
  /-- Reads the counters of peer `peer` at once and then every `periodMs`. -/
  | statsTimer (peer : Nat) (periodMs : Nat)
  /-- Asks the server at `endpoint` for the viewers of `streamKey` at once and then every
  `periodMs`. -/
  | viewerTimer (endpoint streamKey : String) (periodMs : Nat)
  /-- Reports `reconnectDue` after `delayMs`. -/
  | reconnectTimer (delayMs : Nat)
  deriving Inhabited

end LiveViewer
