import LiveViewer.Text.Blank

/-!
# Transport kinds

A playback session reaches the media in one of two ways: *peer to peer*, where a peer
connection negotiated over signaling carries the media, or *segmented pull*, where the
client fetches a playlist and its segments. Each kind has three spellings: its short label
(`webrtc`, `hls`), shown to users; its configuration name (`peer_to_peer`,
`segmented_pull`); and the names a user may type, which `TransportKind.ofText` reads.
-/

namespace LiveViewer

/-- How a session reaches the media. -/
inductive TransportKind where
  /-- A peer connection negotiated over signaling. -/
  | peerToPeer
  /-- A playlist and its segments fetched over HTTP. -/
  | segmentedPull
  deriving DecidableEq, Repr, Inhabited

namespace TransportKind

/-- The short label shown to users. -/
def label : TransportKind → String
  | .peerToPeer => "webrtc"
  | .segmentedPull => "hls"

/-- The name a configuration file writes. -/
def configName : TransportKind → String
  | .peerToPeer => "peer_to_peer"
  | .segmentedPull => "segmented_pull"

/-- The configuration names a reader accepts for each kind, in the order its error lists them:
the configuration name and the short label of each kind. -/
def configSpellings : List (String × TransportKind) :=
  [("peer_to_peer", .peerToPeer), ("webrtc", .peerToPeer), ("hls", .segmentedPull),
   ("segmented_pull", .segmentedPull)]

/-- A typed transport name that names no kind; `text` is the name as compared (trimmed and
with ASCII letters lowered). -/
structure Unknown where
  /-- The normalised text. -/
  text : String
  deriving DecidableEq, Repr

/-- The message for an unknown transport name. -/
def Unknown.message (e : Unknown) : String :=
  "unknown transport kind: " ++ e.text

/-- Reads a typed transport name. The text is trimmed and its ASCII letters lowered; then
`webrtc`, `peer_to_peer`, `peer-to-peer` and `p2p` name peer to peer, and `hls`,
`segmented_pull` and `segmented-pull` name segmented pull. -/
def ofText (s : String) : Except Unknown TransportKind :=
  let t := Text.asciiLower (Text.trim s)
  if t = "webrtc" ∨ t = "peer_to_peer" ∨ t = "peer-to-peer" ∨ t = "p2p" then .ok .peerToPeer
  else if t = "hls" ∨ t = "segmented_pull" ∨ t = "segmented-pull" then .ok .segmentedPull
  else .error ⟨t⟩

/-- Every kind reads back from its own label. -/
theorem ofText_label (k : TransportKind) : ofText k.label = .ok k := by
  cases k <;> rfl

end TransportKind

end LiveViewer
