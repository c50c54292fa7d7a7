import LiveViewer.Presentation

/-!
# What a peer session reports

A receive-only peer session tells the controller three things: that remote media arrived (a
`RemoteStream`), that a local ICE candidate was gathered and must be signaled to the server,
and that its aggregate connection state changed. On request it also reads its inbound video
counters: bytes received, the time of the reading, and the round trip of the selected
candidate pair when that is known.
-/

namespace LiveViewer

/-- Aggregate connection state of a peer session. -/
inductive PeerState where
  | new
  | connecting
  | connected
  | disconnected
  | failed
  | closed
  deriving DecidableEq, Repr, Inhabited

/-- The state as written in log texts. -/
def PeerState.label : PeerState → String
  | .new => "New"
  | .connecting => "Connecting"
  | .connected => "Connected"
  | .disconnected => "Disconnected"
  | .failed => "Failed"
  | .closed => "Closed"

/-- A notification from a peer session. -/
inductive PeerEvent where
  /-- Remote media arrived. -/
  | track (stream : RemoteStream)
  /-- A local ICE candidate was gathered and must be signaled to the server. -/
  | localCandidate (candidate : String) (sdpMid : Option String) (sdpMLineIndex : Option UInt16)
  /-- The aggregate connection state changed. -/
  | stateChanged (state : PeerState)
  deriving Repr, Inhabited

/-- The inbound video counters at one point in time. -/
structure InboundReport where
  /-- Bytes received so far. -/
  bytesReceived : UInt64
  /-- When the counters were read, in milliseconds. -/
  timestampMs : Float
  /-- Round trip of the selected candidate pair in milliseconds, when known. -/
  roundTripMs : Option Float
  deriving Inhabited

end LiveViewer
