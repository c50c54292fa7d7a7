import LiveViewer.Endpoint
import LiveViewer.Engine
import LiveViewer.Error
import LiveViewer.Stats.Stream

/-!
# Clients in a world without a route

The stream list, the stream statistics, the segment engine's playlist polling and the signaling
socket reach the server through the operating system's network. Here the network has no route
to any host: every connection attempt ends before a byte is sent, with the system's "Network is
unreachable" error (errno 101). What each client reports is then fixed by the address it was
given:

* an HTTP request reports that sending the request for its URL failed, whatever the server
  would have answered;
* the segment engine reports that failure once per poll of the playlist, polls again after its
  fallback interval, and never appends a segment;
* opening the signaling socket fails with the system error.

The addresses are derived exactly as for a reachable server, so an endpoint that names no
server still fails with its endpoint error before any request.
-/

namespace LiveViewer.Network

/-- The system error every connection attempt ends with. -/
def unreachable : String := "Network is unreachable (os error 101)"

/-- The failure of an HTTP request for `url`. -/
def requestFailure (url : Url) : EngineError :=
  .http ("error sending request for url (" ++ url.text ++ ")")

/-- The causes under an engine error of this world, outermost first: under a failed request,
the client's account, the connector's and the system's; under an endpoint error, its own
text. -/
def causes : EngineError → List String
  | .http reason => [reason, "client error (Connect)", "tcp connect error", unreachable]
  | .endpoint e => [e.message]
  | _ => []

/-- The streams the server at `endpoint` knows about. -/
def listStreams (endpoint : String) : Except EngineError (List StreamSummary) := do
  let url ← (streamsUrl endpoint).mapError .endpoint
  throw (requestFailure url)

/-- The statistics of the stream `streamKey` on the server at `endpoint`. -/
def streamStats (endpoint streamKey : String) : Except EngineError StreamStats := do
  let url ← (streamStatsUrl endpoint streamKey).mapError .endpoint
  throw (requestFailure url)

/-- Milliseconds between playlist polls until a playlist with a target duration was read. -/
def fallbackPollMs : Nat := 2000

/-- The notifications of the first `polls` polls of a segment engine fed from `manifest`:
each poll requests the playlist, the request fails, and the engine reports the failure and
polls again after `fallbackPollMs`. -/
def pullEvents (manifest : Url) (polls : Nat) : List EngineEvent :=
  List.replicate polls (.error (requestFailure manifest).message)

/-- Opening a signaling socket to `url`. -/
def openSignaling (_url : Url) : Except SignalingError Unit :=
  throw (.connect ("IO error: " ++ unreachable))

/-- Opening the signaling socket of the server at `endpoint`. -/
def connectSignaling (endpoint : String) : Except SignalingError Unit := do
  let url ← (signalingUrl endpoint).mapError .invalidEndpoint
  openSignaling url

/-- A segment engine reports one failure per poll. -/
theorem pullEvents_length (manifest : Url) (polls : Nat) :
    (pullEvents manifest polls).length = polls := by
  simp [pullEvents]

end LiveViewer.Network
