/-!
# Segment engine notifications

A segment engine fetches a media playlist, appends its segments to the surface and tells the
controller how it goes: once when the first playlist was read (how many segments it listed
and whether the stream is still live), on every failed request (the engine keeps polling),
and when an ended playlist was played out.
-/

namespace LiveViewer

/-- A notification from a running segment engine. -/
inductive EngineEvent where
  /-- The first playlist was fetched and read; playback can begin. -/
  | manifestParsed (segments : Nat) (live : Bool)
  /-- A playlist or segment request failed; the engine keeps polling. -/
  | error (message : String)
  /-- The playlist was marked ended and every segment was appended. -/
  | ended
  deriving DecidableEq, Repr, Inhabited

end LiveViewer
