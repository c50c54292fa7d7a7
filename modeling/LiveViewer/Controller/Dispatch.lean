import LiveViewer.Controller.Connect
import LiveViewer.Signal.Message

/-!
# Handling session events

Events of an older generation are dropped; a signaling link that arrives that way is given up
at once. The others are handled by kind:

* an opened signaling link, while connecting, is kept, its pump started, a peer session
  created and its offer sent; a failed open ends the session;
* a text frame is decoded: an answer goes to the peer session, a remote candidate (unwrapped
  when it carries a whole candidate object) too, a server error and an offer are only logged,
  an undecodable frame is logged and ignored; binary frames and link errors are logged; a
  closed link ends a connecting or connected session without a reconnect;
* the first remote track binds its stream to the surface, later tracks of that stream are
  added, tracks of other streams are ignored, and every track marks the session connected;
* a connected peer session marks the session connected and starts the stats timer; a failed
  or disconnected one ends the session, with a reconnect when it had been connected;
* the first playlist read by the segment engine marks the session connected; an engine error
  before that ends the session, after it only logs;
* the reconnect timer retries the failed session's request when the status is still
  Disconnected.
-/

namespace LiveViewer.Act

variable {W : Type} (c : Collaborators W)

/-- Sends a message on the session's signaling channel; dropped when there is none or it was
closed. -/
def sendSignal (m : SignalMessage) : Act W Unit := do
  if let some (link, channel) := (← current).session.bind (·.signaling) then
    if channel.holding then
      touch (c.sendFrame link m.encode)

/-- Creates the peer session, starts its pump and sends the offer. -/
def startNegotiation : Act W (Except TransportError Unit) := do
  match ← ask (c.createPeer (← current).config.iceServers) with
  | .error e => return .error e
  | .ok peer =>
    let pump ← spawn c (.peerPump peer)
    match (← current).session with
    | none =>
      touch (c.abort pump)
      touch (c.closePeer peer)
      return .error .closed
    | some s =>
      updateSession fun s => { s with peer := some peer, tasks := s.tasks ++ [pump] }
      match ← ask (c.createOffer peer) with
      | .error e => return .error e
      | .ok sdp =>
        sendSignal c (.offer s.request.streamKey sdp)
        return .ok ()

/-- The signaling open finished. -/
def onSignalingOpened (url : Url) (result : Except SignalingError Nat) : Act W Unit := do
  if (← current).status != .connecting then
    if let .ok link := result then
      touch (c.dropLink link)
    return
  match result with
  | .error e =>
    log c .error (ViewerError.signaling e).message
    endSession c
  | .ok link =>
    log c .info ("Signaling connected to " ++ url.text)
    let pump ← spawn c (.linkPump link)
    if (← current).session.isNone then
      touch (c.dropSender link)
    updateSession fun s => { s with signaling := some (link, { url }), tasks := s.tasks ++ [pump] }
    match ← startNegotiation c with
    | .error e => failSetup c (ViewerError.ofTransport e)
    | .ok () => pure ()

/-- A decoded signal message from the server. -/
def dispatchSignal (m : SignalMessage) : Act W Unit := do
  match m with
  | .answer sdp =>
    let some peer := (← current).session.bind (·.peer) | return
    match ← ask (c.applyAnswer peer sdp) with
    | .ok () => pure ()
    | .error e =>
      let error := ViewerError.setup ("failed to apply answer: " ++ e.message)
      if (← current).status == .connecting then failSetup c error
      else log c .error error.message
  | .iceCandidate candidate sdpMid sdpMLineIndex =>
    let some peer := (← current).session.bind (·.peer) | return
    let remote := RemoteCandidate.ofSignal candidate sdpMid sdpMLineIndex
    match ← ask (c.addCandidate peer remote) with
    | .ok () => pure ()
    | .error e => log c .warn ("Failed to add remote ICE candidate: " ++ e.message)
  | .error message => log c .error ("Server error: " ++ message)
  | .offer .. => log c .warn "Ignoring offer from server; viewers only send offers"

/-- The signaling link is gone: the session ends without a reconnect. -/
def onSignalingClosed : Act W Unit := do
  if let some (link, channel) := (← current).session.bind (·.signaling) then
    if channel.holding then
      touch (c.dropSender link)
    updateSession fun s => { s with signaling := some (link, channel.markClosed) }
  log c .warn (ViewerError.signaling .closed).message
  let status := (← current).status
  if status == .connecting || status == .connected then
    endSession c

/-- Something the signaling link delivered. -/
def onLinkEvent (e : LinkEvent) : Act W Unit := do
  match e with
  | .text raw =>
    match Inbound.ofFrame raw with
    | .message m => dispatchSignal c m
    | .unrecognized _ reason => log c .warn ("Ignoring unrecognized signaling frame: " ++ reason)
  | .binary length =>
    log c .warn ("Ignoring binary signaling frame (" ++ toString length ++ " bytes)")
  | .error message => log c .error (ViewerError.signaling (.channel message)).message
  | .closed => onSignalingClosed c

/-- A change of the peer session's state. -/
def onPeerState (state : PeerState) : Act W Unit := do
  match state with
  | .connected =>
    markConnected c
    startStatsSampler c
  | .failed | .disconnected =>
    match (← current).status with
    | .connected => transportFailure c state
    | .connecting =>
      failSetup c (.setup ("peer connection " ++ state.label ++ " during setup"))
    | _ => pure ()
  | _ => pure ()

/-- Something the peer session reported. -/
def onPeerEvent (e : PeerEvent) : Act W Unit := do
  match e with
  | .track stream =>
    let some s := (← current).session | return
    match s.boundStream with
    | none =>
      updateSession fun s => { s with boundStream := some stream.streamId }
      touch (c.setSource (.remote stream))
    | some bound =>
      if bound == stream.streamId then
        touch (c.addTrack stream)
    markConnected c
  | .localCandidate candidate sdpMid sdpMLineIndex =>
    sendSignal c (.iceCandidate candidate sdpMid sdpMLineIndex)
  | .stateChanged state => onPeerState c state

/-- Something the segment engine reported. -/
def onEngineEvent (e : EngineEvent) : Act W Unit := do
  match e with
  | .manifestParsed .. => markConnected c
  | .error message =>
    if (← current).status == .connecting then
      failSetup c (.setup ("manifest unavailable: " ++ message))
    else
      log c .warn ("Segment engine error: " ++ message)
  | .ended => log c .info "Stream playlist ended"

/-- The reconnect delay is over: retry when still disconnected. -/
def onReconnectDue : Act W Unit := do
  let some (_, request) := (← current).timers.reconnect | return
  updateTimers fun t => { t with reconnect := none }
  if (← current).status != .disconnected then return
  log c .info "Attempting automatic reconnect"
  if let .error e ← connect c request then
    log c .error ("Automatic reconnect failed: " ++ e.message)

/-- Handles one session event; events of another generation are dropped. -/
def handleEvent (e : SessionEvent) : Act W Unit := do
  if e.generation != (← current).generation then
    if let .signalingOpened _ (.ok link) := e.kind then
      touch (c.dropLink link)
    return
  match e.kind with
  | .signalingOpened url result => onSignalingOpened c url result
  | .link event => onLinkEvent c event
  | .peer event => onPeerEvent c event
  | .engine event => onEngineEvent c event
  | .statsReport report => onStatsReport report
  | .viewerCount result => onViewerCount result
  | .reconnectDue => onReconnectDue c

end LiveViewer.Act
