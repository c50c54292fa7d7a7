import LiveViewer.Session.Request

/-!
# What can go wrong

Failures are values that name their cause; each kind has one `message` function that gives
the text shown to the user. The kinds nest as the layers do: a bad endpoint inside a signaling
failure, an engine failure inside a transport failure, and the controller's own errors on top.
-/

namespace LiveViewer

/-- A server endpoint that cannot be used. -/
inductive EndpointError where
  /-- The text does not read as a URL; `reason` says why. -/
  | invalid (endpoint reason : String)
  /-- The URL reads, but its scheme is not one a viewer speaks. -/
  | unsupportedScheme (scheme : String)
  deriving DecidableEq, Repr, Inhabited

/-- The text of an endpoint error. -/
def EndpointError.message : EndpointError → String
  | .invalid e r => "Invalid endpoint '" ++ e ++ "': " ++ r
  | .unsupportedScheme s => "Unsupported endpoint scheme: " ++ s

/-- A failure of the signaling link. -/
inductive SignalingError where
  | invalidEndpoint (e : EndpointError)
  | connect (reason : String)
  | channel (reason : String)
  | closed
  deriving DecidableEq, Repr, Inhabited

/-- The text of a signaling error. -/
def SignalingError.message : SignalingError → String
  | .invalidEndpoint e => "Invalid signaling endpoint: " ++ e.message
  | .connect r => "Failed to open signaling channel: " ++ r
  | .channel r => "Signaling channel error: " ++ r
  | .closed => "Signaling channel closed"

/-- A failure of the segment engine. -/
inductive EngineError where
  /-- A request that got no response; `reason` is the client's account. -/
  | http (reason : String)
  | httpStatus (status : Nat) (url : String)
  | invalidUrl (reason : String)
  | endpoint (e : EndpointError)
  | playlistParse (reason : String)
  deriving DecidableEq, Repr, Inhabited

/-- The text of an engine error. -/
def EngineError.message : EngineError → String
  | .http r => "HTTP error: " ++ r
  | .httpStatus s u => "HTTP status " ++ toString s ++ " for " ++ u
  | .invalidUrl r => "Invalid URL: " ++ r
  | .endpoint e => "Invalid endpoint: " ++ e.message
  | .playlistParse r => "Playlist parsing error: " ++ r

/-- A failure while starting or running a media transport. -/
inductive TransportError where
  /-- The peer connection stack refused; `reason` is its account. -/
  | peer (reason : String)
  | candidate (reason : String)
  | invalidEndpoint (e : EndpointError)
  | segmentedUnsupported
  | engine (e : EngineError)
  | closed
  deriving DecidableEq, Repr, Inhabited

/-- The text of a transport error. -/
def TransportError.message : TransportError → String
  | .peer r => "WebRTC error: " ++ r
  | .candidate r => "Invalid ICE candidate: " ++ r
  | .invalidEndpoint e => "Invalid playback endpoint: " ++ e.message
  | .segmentedUnsupported => "Segmented playback is not supported by this surface"
  | .engine e => "Segment engine error: " ++ e.message
  | .closed => "Transport closed"

/-- An error of the connection controller. -/
inductive ViewerError where
  | validation (field : RequiredField)
  | connectInProgress
  | signaling (e : SignalingError)
  | setup (reason : String)
  | transport (reason : String)
  | playback (reason : String)
  | controllerClosed
  deriving DecidableEq, Repr, Inhabited

/-- The text of a controller error. -/
def ViewerError.message : ViewerError → String
  | .validation f => "Validation error: " ++ f.message
  | .connectInProgress => "A connection attempt is already in progress"
  | .signaling e => "Signaling error: " ++ e.message
  | .setup r => "Setup error: " ++ r
  | .transport r => "Transport failure: " ++ r
  | .playback r => "Playback error: " ++ r
  | .controllerClosed => "Controller is shut down"

/-- A transport failure during setup, as the controller reports it. -/
def ViewerError.ofTransport (e : TransportError) : ViewerError := .setup e.message

end LiveViewer
