import LiveViewer.Text.Quoted

/-!
# What the surface shows

The presentation surface plays media and reports playback events back. A remote stream is
described by its stream id, its track id and its media kind; a stream created from a
description alone has no live track behind it. The overlay text follows the last playback
event: loading and buffering messages, nothing while data plays, and the error text.
-/

namespace LiveViewer

/-- Audio or video. -/
inductive MediaKind where
  | audio
  | video
  deriving DecidableEq, Repr, Inhabited

/-- The kind as written in debug views and requests. -/
def MediaKind.label : MediaKind → String
  | .audio => "Audio"
  | .video => "Video"

/-- Remote media delivered by a peer session. -/
structure RemoteStream where
  /-- The stream the track belongs to. -/
  streamId : String
  /-- The track itself. -/
  trackId : String
  /-- Audio or video. -/
  kind : MediaKind
  /-- Whether a live track stands behind the description. -/
  live : Bool := false
  deriving DecidableEq, Repr, Inhabited

/-- The debug view of a stream description: its fields in order, the texts quoted, and
whether a live track stands behind it. -/
def RemoteStream.debugText (r : RemoteStream) : String :=
  "RemoteStream \x7b stream_id: " ++ Text.quote r.streamId ++ ", track_id: " ++
    Text.quote r.trackId ++ ", kind: " ++ r.kind.label ++ ", live: " ++ toString r.live ++ " \x7d"

/-- What the surface is told to play. -/
inductive MediaSource (Url : Type) where
  /-- A playlist the surface plays itself. -/
  | manifest (url : Url)
  /-- Media arriving over the peer session. -/
  | remote (stream : RemoteStream)
  /-- Segments fetched by a segment engine from the playlist at `url`. -/
  | segmentFeed (url : Url)
  deriving DecidableEq, Repr

/-- Observations the surface reports. -/
inductive PlaybackEvent where
  | loadStart
  | dataLoaded
  | waiting
  | playing
  | error (message : String)
  deriving DecidableEq, Repr, Inhabited

/-- The overlay for an event; `none` hides it. -/
def PlaybackEvent.overlayText : PlaybackEvent → Option String
  | .loadStart => some "Loading stream..."
  | .dataLoaded | .playing => none
  | .waiting => some "Buffering..."
  | .error m => some ("Playback error: " ++ m)

end LiveViewer
