import LiveViewer.Playlist.Master

/-!
# Tags of a playlist

A tag line is told by the first of a list of names that it starts with (`tagReaders`); the
discontinuity sequence is tried before the discontinuity, whose name begins the other's. A tag
line that starts with none of them is a tag this reader does not know, and is passed over.

A tag that takes no value (a discontinuity, the end of the list, I-frames only, independent
segments) refuses any text after its name. The other tags read their value:

* the version, a number from 1 to 7 once blanks are trimmed;
* the segment duration, seconds as a double before the first comma, made nanoseconds;
* the byte range `length[@start]`, the target duration, the media and discontinuity sequences,
  unsigned 64-bit numbers; a bad target duration names the whole line;
* the playlist type, `EVENT` or `VOD`;
* the key, the map (its URI required, its byte range quoted), the date range (its identifier
  required, durations in seconds, `END-ON-NEXT=YES` only with a class, client attributes
  starting with `0x` in hexadecimal), and the start (a single-precision offset required, and
  whether it is precise);
* the master playlist tags (`LiveViewer.Playlist.Master`).
-/

namespace LiveViewer.Playlist

/-- A byte range of a segment: its length, and its start when given. -/
structure ByteRange where
  length : Nat
  start : Option Nat := none
  deriving DecidableEq, Repr

/-- Reads a byte range `length[@start]`. -/
def ByteRange.read (s : String) : Except PlaylistError ByteRange :=
  match s.toList.span (· != '@') with
  | (l, []) => do
    let length := String.ofList l
    return { length := ← readNumber 64 length length }
  | (l, _ :: st) => do
    let length := String.ofList l
    let start := String.ofList st
    let n ← readNumber 64 length length
    return { length := n, start := some (← readNumber 64 start start) }

/-- What a tag line says. -/
inductive Tag where
  | version
  /-- A segment's duration in nanoseconds. -/
  | duration (ns : Nat)
  | byteRange (range : ByteRange)
  | discontinuity
  | discontinuitySequence (n : Nat)
  /-- A key for the segments after it; `none` when they are not encrypted. -/
  | key (key : Option DecryptionKey)
  | map
  | programDateTime
  | dateRange
  | targetDuration (seconds : Nat)
  | mediaSequence (n : Nat)
  | endList
  | playlistType
  | iFramesOnly
  | independentSegments
  | start
  /-- A tag that only a master playlist may hold. -/
  | master (t : MasterTag)
  /-- A tag this reader does not know. -/
  | unknown
  deriving DecidableEq, Repr

/-- Reads a version: a number from 1 to 7. -/
def readVersion (rest : String) : Except PlaylistError Tag :=
  if ["1", "2", "3", "4", "5", "6", "7"].contains (Text.trim rest) then .ok .version
  else .error (.unknownVersion rest)

/-- Reads seconds as a double and makes them nanoseconds. -/
def readSeconds (value : String) : Except PlaylistError Nat :=
  match Decimal.readFloat value with
  | .error p => .error (.badFloat p value)
  | .ok x => (nanosOfSeconds x).mapError .badDuration

/-- Reads a segment duration: the seconds before the first comma; a title may follow. -/
def readSegmentDuration (rest : String) : Except PlaylistError Nat :=
  readSeconds (String.ofList (rest.toList.takeWhile (· != ',')))

/-- Reads a playlist type. -/
def readPlaylistType (rest : String) : Except PlaylistError Tag :=
  if rest = "EVENT" || rest = "VOD" then .ok .playlistType
  else .error (.unknownPlaylistType rest)

/-- Takes in one attribute of a map: its URI, or a byte range that must read. -/
def addMapField (uri : Option String) : String × String → Except PlaylistError (Option String)
  | (name, value) =>
    if name = "URI" then .ok (some (unquote value))
    else if name = "BYTERANGE" then (ByteRange.read (unquote value)).map fun _ => uri
    else .ok uri

/-- Checks the attributes of a map: a URI is required, and a byte range reads. -/
def checkMap (rest : String) : Except PlaylistError Unit := do
  let uri ← (attributePairs rest).foldlM addMapField none
  if uri.isNone then throw (.missingValue "URI")

/-- `cs` without the copies of `p` at its front; `fuel` bounds their number. -/
def dropCopies (p : List Char) : (fuel : Nat) → List Char → List Char
  | 0, cs => cs
  | fuel + 1, cs => if !p.isEmpty && p.isPrefixOf cs then dropCopies p fuel (cs.drop p.length) else cs

/-- Checks the value of a client attribute: one that starts with `0x` or `0X` is hexadecimal
after those prefixes; any other is a number or a string. -/
def checkClientValue (value : String) : Except PlaylistError Unit :=
  if value.startsWith "0x" || value.startsWith "0X" then
    let cs := value.toList
    let digits := dropCopies "0X".toList cs.length (dropCopies "0x".toList cs.length cs)
    ((Text.decodeHex (String.ofList digits) none).map fun _ => ()).mapError .badHex
  else .ok ()

/-- What the attributes of a date range said so far: its identifier, class, and whether it
ends at the next one. -/
abbrev DateRangeFields := Option String × Option String × Bool

/-- Takes in one attribute of a date range. -/
def addDateRangeField : DateRangeFields → String × String → Except PlaylistError DateRangeFields
  | (id, cls, next), (name, value) =>
    if name = "ID" then .ok (some (unquote value), cls, next)
    else if name = "CLASS" then .ok (id, some (unquote value), next)
    else if name = "DURATION" || name = "PLANNED-DURATION" then
      (readSeconds value).map fun _ => (id, cls, next)
    else if name = "END-ON-NEXT" then
      if value = "YES" then .ok (id, cls, true) else .error .endOnNextValue
    else if name.startsWith "X-" then (checkClientValue value).map fun _ => (id, cls, next)
    else .ok (id, cls, next)

/-- Checks the attributes of a date range. -/
def checkDateRange (rest : String) : Except PlaylistError Unit := do
  let (id, cls, next) ← (attributePairs rest).foldlM addDateRangeField (none, none, false)
  if id.isNone then throw (.missingValue "ID")
  if next && cls.isNone then throw .invalidInput

/-- Reads an offset as a single: it must be finite. -/
def readSignedSingle (s : String) : Except PlaylistError Decimal.Single :=
  match Decimal.Single.read s with
  | .error p => .error (.badFloat p s)
  | .ok x =>
    match x with
    | .infinite _ => .error (.notFinite x.text)
    | .nan => .error .notANumber
    | .finite .. => .ok x

/-- Takes in one attribute of a start: its time offset, or whether it is precise. -/
def addStartField (offset : Option Decimal.Single) :
    String × String → Except PlaylistError (Option Decimal.Single)
  | (name, value) =>
    if name = "TIME-OFFSET" then some <$> readSignedSingle value
    else if name = "PRECISE" then (yesOrNo value).map fun _ => offset
    else .ok offset

/-- Checks the attributes of a start: a time offset is required. -/
def checkStart (rest : String) : Except PlaylistError Unit := do
  let offset ← (attributePairs rest).foldlM addStartField none
  if offset.isNone then throw (.missingValue "TIME-OFFSET")

/-- A tag that takes no value: any text after its name is refused. -/
def bare (t : Tag) (line rest : String) : Except PlaylistError Tag :=
  if rest.isEmpty then .ok t else .error (.unexpectedData line)

/-- A reader of a tag: given the line and the text after the tag's name. -/
abbrev TagReader := String → String → Except PlaylistError Tag

/-- The tags by name, in the order in which lines are matched against them. -/
def tagReaders : List (String × TagReader) :=
  [("#EXT-X-VERSION:", fun _ rest => readVersion rest),
   ("#EXTINF:", fun _ rest => Tag.duration <$> readSegmentDuration rest),
   ("#EXT-X-BYTERANGE:", fun _ rest => Tag.byteRange <$> ByteRange.read rest),
   ("#EXT-X-DISCONTINUITY-SEQUENCE:", fun _ rest =>
     Tag.discontinuitySequence <$> readNumber 64 rest rest),
   ("#EXT-X-DISCONTINUITY", bare .discontinuity),
   ("#EXT-X-KEY:", fun _ rest => Tag.key <$> readKeyTag rest),
   ("#EXT-X-MAP:", fun _ rest => (fun _ => Tag.map) <$> checkMap rest),
   ("#EXT-X-PROGRAM-DATE-TIME:", fun _ _ => .ok .programDateTime),
   ("#EXT-X-TARGETDURATION:", fun line rest => Tag.targetDuration <$> readNumber 64 rest line),
   ("#EXT-X-DATERANGE:", fun _ rest => (fun _ => Tag.dateRange) <$> checkDateRange rest),
   ("#EXT-X-MEDIA-SEQUENCE:", fun _ rest => Tag.mediaSequence <$> readNumber 64 rest rest),
   ("#EXT-X-ENDLIST", bare .endList),
   ("#EXT-X-PLAYLIST-TYPE:", fun _ rest => readPlaylistType rest),
   ("#EXT-X-I-FRAMES-ONLY", bare .iFramesOnly),
   (renditionTag, fun line _ => (Tag.master ∘ .rendition) <$> Rendition.read line),
   (streamTag, fun line _ => (Tag.master ∘ .variant) <$> VariantStream.read line),
   (iFrameStreamTag, fun line _ => (Tag.master ∘ .variant) <$> VariantStream.read line),
   (sessionDataTag, fun line _ => (Tag.master ∘ .sessionData) <$> SessionData.read line),
   (sessionKeyTag, fun _ rest => (Tag.master ∘ .sessionKey) <$> DecryptionKey.read rest),
   ("#EXT-X-INDEPENDENT-SEGMENTS", bare .independentSegments),
   ("#EXT-X-START:", fun _ rest => (fun _ => Tag.start) <$> checkStart rest)]

/-- Reads a tag line. -/
def Tag.read (line : String) : Except PlaylistError Tag :=
  match tagReaders.find? (line.startsWith ·.1) with
  | some (name, reader) => reader line (String.ofList (line.toList.drop name.length))
  | none => .ok .unknown

end LiveViewer.Playlist
