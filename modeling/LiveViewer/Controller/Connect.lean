import LiveViewer.Controller.Release
import LiveViewer.Endpoint

/-!
# Starting a session

A connect first validates the request: a blank stream key or endpoint is refused with one
error entry in the log and nothing else changed. While an attempt is in progress a connect is
refused without any change. Otherwise every timer stops, the previous session is released, a
new generation begins with a fresh session, the status becomes Connecting with the
"Connecting..." overlay, and the chosen transport starts:

* peer-to-peer opens the signaling link in the background; negotiation goes on once the link
  is open;
* segmented pull binds the stream's playlist to the surface, natively when the surface plays
  playlists itself (connected at once), otherwise through a segment engine (connected when the
  engine read its first playlist).

A transport that cannot start ends the session with a setup error; the connect itself still
succeeds.
-/

namespace LiveViewer.Act

variable {W : Type} (c : Collaborators W)

/-- Moves a connecting session to Connected and starts counting viewers. -/
def markConnected : Act W Unit := do
  if (← current).status != .connecting then return
  update fun k => { k with status := .connected }
  setOverlay c none
  log c .info "Connected"
  startViewerCountTimer c
  publish

/-- Starts opening the signaling link; its outcome arrives as an event. -/
def openSignaling (request : ConnectRequest) : Act W Unit := do
  match signalingUrl request.serverEndpoint with
  | .error e => failSetup c (.setup ("invalid signaling endpoint: " ++ e.message))
  | .ok url =>
    let id ← spawn c (.opener url)
    updateSession fun s => { s with tasks := s.tasks ++ [id] }

/-- Binds the playlist at `manifest` to the surface: natively when it can, otherwise through a
segment engine. -/
def attachSegmented (manifest : Url) : Act W (Except TransportError Playback) := do
  if c.nativeHls (← get).world then
    touch (c.setSource (.manifest manifest))
    return .ok .native
  match c.startEngine with
  | none => return .error .segmentedUnsupported
  | some start =>
    touch (c.setSource (.segmentFeed manifest))
    match ← ask (start manifest) with
    | .ok e => return .ok (.engine e)
    | .error err => return .error err

/-- Starts segmented playback of the requested stream. -/
def startSegmented (request : ConnectRequest) : Act W Unit := do
  match manifestUrl request.serverEndpoint request.streamKey with
  | .error e => failSetup c (.setup ("invalid manifest endpoint: " ++ e.message))
  | .ok manifest =>
    match ← attachSegmented c manifest with
    | .error e => failSetup c (ViewerError.ofTransport e)
    | .ok playback =>
      let engine := match playback with
        | .engine e => some e
        | .native => none
      let pump ← spawn c (.enginePump engine)
      updateSession fun s => { s with playback := some playback, tasks := s.tasks ++ [pump] }
      if playback == .native then
        markConnected c

/-- Validates `request`, replaces the current session and starts the chosen transport. -/
def connect (request : ConnectRequest) : Act W (Except ViewerError Unit) := do
  match request.validated with
  | .error field =>
    log c .error (ViewerError.validation field).message
    return .error (.validation field)
  | .ok request =>
    if (← current).status == .connecting then
      return .error .connectInProgress
    let _ ← cancelAll c
    let _ ← releaseSession c
    update fun k => { k with
      generation := k.generation + 1
      session := some { generation := k.generation + 1, request }
      status := .connecting
      transport := some request.transport }
    setOverlay c (some connectingOverlay)
    publish
    log c .info ("Connecting to stream '" ++ request.streamKey ++ "' at " ++
      request.serverEndpoint ++ " via " ++ request.transport.label)
    match request.transport with
    | .peerToPeer => openSignaling c request
    | .segmentedPull => startSegmented c request
    return .ok ()

end LiveViewer.Act
