import LiveViewer.Playlist.Tag
import LiveViewer.Error

/-!
# Reading a media playlist

A playlist text starts with `#EXTM3U` once blanks are trimmed. Its lines are trimmed and blank
ones skipped; a line starting with `#EXT` is a tag (`LiveViewer.Playlist.Tag`), another line
starting with `#` a comment, and any other line the URI of the segment that the segment tags
since the previous URI describe. A variant stream tag takes the line after it, whatever that
line is, as its URI, and is dropped when no line follows.

Lines are read and taken in one at a time, so the first line at fault is reported:

* a master playlist tag is refused, named as it is written back;
* a discontinuity sequence must come before the first segment and before any discontinuity;
* a URI makes a segment, which needs a duration; it is encrypted by the keys in force, at most
  one per key format.

At the end no segment tag may wait for its URI, and the playlist is checked as a whole
(`checkSegments`): when it has a target duration, independent segments are all encrypted with
AES-128 or none is, no segment exceeds the target once rounded to whole seconds, and a byte
range without a start continues the previous range of the same URI. Last, the target duration
is required, and the segments are numbered from the media sequence on, as 64-bit numbers.

The segment engine reads a playlist through `parseMediaPlaylist`: a refused text becomes an
engine error carrying the refusal's message, except a segment duration that does not convert,
on which the conversion panics (`PlaylistFault`).
-/

namespace LiveViewer.Playlist

/-- A segment being described. -/
structure Draft where
  durationNs : Option Nat := none
  byteRange : Option ByteRange := none
  /-- Whether any segment tag was seen since the last URI. -/
  started : Bool := false
  deriving DecidableEq, Repr

/-- A segment as read, before numbering. -/
structure Entry where
  uri : String
  durationNs : Nat
  byteRange : Option ByteRange
  /-- The keys in force at its URI. -/
  keys : List (Option DecryptionKey)
  deriving DecidableEq, Repr

/-- What has been read so far. -/
structure Reading where
  target : Option Nat := none
  mediaSequence : Nat := 0
  ended : Bool := false
  independentSegments : Bool := false
  /-- Whether a discontinuity tag was seen. -/
  discontinuity : Bool := false
  /-- The keys in force. -/
  keys : List (Option DecryptionKey) := []
  entries : List Entry := []
  draft : Draft := {}
  deriving DecidableEq, Repr

/-- The reading with a segment tag taken in. -/
def Reading.mark (r : Reading) (f : Draft → Draft) : Reading :=
  { r with draft := { f r.draft with started := true } }

/-- Takes in a tag. -/
def Reading.tag (r : Reading) : Tag → Except PlaylistError Reading
  | .duration ns => .ok (r.mark ({ · with durationNs := some ns }))
  | .byteRange b => .ok (r.mark ({ · with byteRange := some b }))
  | .discontinuity => .ok ({ r with discontinuity := true }.mark id)
  | .key k => .ok ({ r with keys := updateKeys r.keys k }.mark id)
  | .map | .programDateTime | .dateRange => .ok (r.mark id)
  | .targetDuration s => .ok { r with target := some (s * nanosPerSecond) }
  | .mediaSequence n => .ok { r with mediaSequence := n }
  | .discontinuitySequence _ =>
    if !r.entries.isEmpty then .error .lateDiscontinuitySequence
    else if r.discontinuity then .error .invalidInput
    else .ok r
  | .endList => .ok { r with ended := true }
  | .independentSegments => .ok { r with independentSegments := true }
  | .master t => .error (.unexpectedTag t.text)
  | .version | .playlistType | .iFramesOnly | .start | .unknown => .ok r

/-- Takes in a URI: the segment described so far, which needs a duration. -/
def Reading.uri (r : Reading) (u : String) : Except PlaylistError Reading :=
  match r.draft.durationNs with
  | none => .error (.builder (.uninitialized "duration"))
  | some d =>
    .ok { r with entries := r.entries ++ [⟨u, d, r.draft.byteRange, r.keys⟩], draft := {} }

/-- The name of a variant stream tag, whose URI is on the next line. -/
def streamPrefix : String := "#EXT-X-STREAM-INF:"

/-- Reads the lines `ls` into `r`, one at a time. -/
def Reading.run (r : Reading) : List String → Except PlaylistError Reading
  | [] => .ok r
  | l :: rest =>
    if l.startsWith streamPrefix then
      match rest with
      | [] => .ok r
      | u :: more => do
        let v ← VariantStream.read (l ++ "\n" ++ u)
        let r ← r.tag (.master (.variant v))
        r.run more
    else if l.startsWith "#EXT" then do
      let r ← r.tag (← Tag.read l)
      r.run rest
    else if l.startsWith "#" then r.run rest
    else do
      let r ← r.uri l
      r.run rest

/-- A duration rounded to whole seconds: up from half a second. -/
def roundedSeconds (ns : Nat) : Nat :=
  ns / nanosPerSecond + (if ns % nanosPerSecond < 500000000 then 0 else 1)

/-- Whether independent segments mix encryption: some key in force is AES-128 and some is not. -/
def mixesEncryption (entries : List Entry) : Bool :=
  let keys := entries.flatMap (·.keys)
  keys.any isAes128 && keys.any (!isAes128 ·)

/-- Checks the segments against the target duration and the byte ranges against the URIs:
a range without a start continues the previous range of the same URI. -/
def checkSegments (target : Nat) (independent : Bool) (entries : List Entry) :
    Except BuildProblem Unit := do
  if independent && mixesEncryption entries then throw .mixedEncryption
  let mut lastRange : Option String := none
  for e in entries do
    if roundedSeconds e.durationNs * nanosPerSecond > target then
      throw (.segmentTooLong e.durationNs target target e.uri)
    match e.byteRange with
    | some { start := none, .. } => if lastRange ≠ some e.uri then throw .invalidInput
    | some _ => lastRange := some e.uri
    | none => lastRange := none

/-- The lines of a playlist body: trimmed, blank ones dropped. -/
def bodyLines (body : String) : List String :=
  ((body.toList.splitOn '\n').map fun l => Text.trim (String.ofList l)).filter (!·.isEmpty)

/-- Reads a media playlist. -/
def parse (text : String) : Except PlaylistError MediaPlaylist := do
  let body ← afterTag text "#EXTM3U"
  let r ← Reading.run {} (bodyLines body)
  if r.draft.started then throw .missingSegmentUri
  match r.target with
  | none => throw (.builder .missingTargetDuration)
  | some target =>
    (checkSegments target r.independentSegments r.entries).mapError .builder
    let m := r.mediaSequence.toUInt64
    pure { targetDurationNs := target, mediaSequence := m, ended := r.ended,
           segments := r.entries.zipIdx.map fun (e, i) => ⟨m + i.toUInt64, e.uri, e.durationNs⟩ }

/-- How the segment engine fails to read a playlist: it refuses it with an engine error, or it
panics with a message. -/
inductive PlaylistFault where
  | refused (e : EngineError)
  | panicked (message : String)
  deriving DecidableEq, Repr

/-- The fault of a refused playlist: a segment duration that does not convert panics, and any
other refusal is an engine error carrying its message. -/
def PlaylistFault.ofError : PlaylistError → PlaylistFault
  | .badDuration d => .panicked d.message
  | e => .refused (.playlistParse e.message)

/-- The segment engine's reading of a media playlist. -/
def parseMediaPlaylist (text : String) : Except PlaylistFault MediaPlaylist :=
  (parse text).mapError PlaylistFault.ofError

end LiveViewer.Playlist
