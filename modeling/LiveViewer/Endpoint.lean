import LiveViewer.Url.Parse
import LiveViewer.Error

/-!
# Server endpoints

A viewer is configured with one server endpoint, typed by the user: a URL with an HTTP or
WebSocket scheme, or a bare `host:port`, which is read as HTTP. From it come the five URLs the
viewer uses: the signaling socket (`ws` or `wss`), the HTTP base, the stream list, a stream's
playlist and a stream's statistics. The secure choice follows the endpoint: `https` and `wss`
give `wss` and `https`. The query and fragment of the endpoint are dropped; its user
information, host, port and base path are kept.

A fixed suffix is added to the base path with its trailing slashes removed; a stream key is
added as one segment, percent-encoded, after removing one trailing empty segment. A key that is
a dot segment, `.` or `..`, is not added at all, and one that becomes a dot segment once its tabs
and line breaks are removed acts as one (`pushSegment`).

Setting the scheme and pushing segments can refuse a URL, as the URL setters do: a scheme is set
only on a URL of a special scheme that has a host, and segments are pushed only onto a path of
segments. Neither refuses a URL read from an endpoint that passed the security check.
-/

namespace LiveViewer

open Url

namespace Endpoint

/-- The path of the signaling socket. -/
def signalingPath : List String := ["api", "webrtc", "ws"]

/-- The path of the stream list. -/
def streamsPath : List String := ["api", "streams"]

/-- Reads an endpoint as typed: trimmed, and read as HTTP when `://` does not occur in it. -/
def parse (endpoint : String) : Except EndpointError Url :=
  let trimmed := Text.trim endpoint
  let candidate :=
    if "://".toList.isInfixOf_internal trimmed.toList then trimmed else "http://" ++ trimmed
  match Url.parse candidate with
  | .ok u => .ok { u with query := none, fragment := none }
  | .error e => .error (.invalid endpoint e.message)

/-- Whether the URL's scheme is a secure one; other schemes than HTTP and WebSocket are
refused. -/
def isSecure (u : Url) : Except EndpointError Bool :=
  if u.scheme = "http" || u.scheme = "ws" then .ok false
  else if u.scheme = "https" || u.scheme = "wss" then .ok true
  else .error (.unsupportedScheme u.scheme)

/-- The scheme for a socket or for HTTP, secure or not. -/
def schemeFor (secure socket : Bool) : String :=
  match socket, secure with
  | true, true => "wss" | true, false => "ws" | false, true => "https" | false, false => "http"

/-- The URL under the scheme for a socket or for HTTP, secure or not, set as a URL setter sets a
scheme: a URL whose scheme is not special, or that has no host, is refused, naming its scheme;
otherwise a port that is the new scheme's default is dropped. -/
def withScheme (u : Url) (secure socket : Bool) : Except EndpointError Url :=
  let scheme := schemeFor secure socket
  if SchemeKind.of u.scheme = .other ∨ u.host = none then .error (.unsupportedScheme u.scheme)
  else .ok { u with scheme, port := if u.port = defaultPort scheme then none else u.port }

/-- The segments of a path without its trailing empty ones. -/
def dropTrailingEmpty (segs : List String) : List String :=
  (segs.reverse.dropWhile (· = "")).reverse

/-- The URL with `suffix` after its path, whose trailing slashes are removed. -/
def appendPath (u : Url) (suffix : List String) : Url :=
  match u.path with
  | .segments segs => { u with path := .segments (dropTrailingEmpty segs ++ suffix) }
  | .plain t => { u with path := .plain (t ++ String.join (suffix.map ("/" ++ ·))) }

/-- The characters of a pushed segment that are read: tabs and line breaks are skipped. -/
def segmentChars (seg : String) : List Char :=
  seg.toList.filter fun c => c ≠ '\t' && c ≠ '\n' && c ≠ '\r'

/-- A segment as it is pushed: tabs and line breaks removed, then percent-encoded. -/
def encodeSegment (seg : String) : String :=
  String.ofList (encode .specialPathSegment (segmentChars seg))

/-- Adds one segment. The segments `.` and `..` are skipped. Any other segment loses its tabs
and line breaks and is then read as a path segment: what is left of it as a single dot adds an
empty segment, as a double dot removes the last segment and leaves an empty one in its place,
and anything else is added percent-encoded. A path that is only `/` takes the new segment in
place of its empty segment. -/
def pushSegment (segs : List String) (seg : String) : List String :=
  if seg = "." || seg = ".." then segs
  else
    if segmentChars seg = ['.', '.'] then segs.dropLast ++ [""]
    else
      let added := if segmentChars seg = ['.'] then "" else encodeSegment seg
      if segs = [""] then [added] else segs ++ [added]

/-- The URL with the segments `more` added after removing one trailing empty segment. A URL
whose path is not a list of segments is refused, naming the URL. -/
def pushSegments (u : Url) (more : List String) : Except EndpointError Url :=
  match u.path with
  | .segments segs =>
    let base := if segs.length ≥ 2 && segs.getLast? = some "" then segs.dropLast else segs
    .ok { u with path := .segments (more.foldl pushSegment base) }
  | .plain _ => .error (.invalid u.text "endpoint cannot carry a path")

end Endpoint

open Endpoint

/-- The URL of the signaling socket. -/
def signalingUrl (endpoint : String) : Except EndpointError Url := do
  let u ← Endpoint.parse endpoint
  let secure ← isSecure u
  let url ← withScheme u secure true
  pure (appendPath url signalingPath)

/-- The HTTP base URL of the server. -/
def httpBaseUrl (endpoint : String) : Except EndpointError Url := do
  let u ← Endpoint.parse endpoint
  let secure ← isSecure u
  withScheme u secure false

/-- The URL of a stream's playlist. -/
def manifestUrl (endpoint streamKey : String) : Except EndpointError Url := do
  pushSegments (← httpBaseUrl endpoint) ["hls", streamKey, "playlist.m3u8"]

/-- The URL of the stream list. -/
def streamsUrl (endpoint : String) : Except EndpointError Url := do
  pure (appendPath (← httpBaseUrl endpoint) streamsPath)

/-- The URL of a stream's statistics. -/
def streamStatsUrl (endpoint streamKey : String) : Except EndpointError Url := do
  pushSegments (← streamsUrl endpoint) [streamKey, "stats"]

end LiveViewer
