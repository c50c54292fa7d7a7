import LiveViewer.Playlist.Key
import LiveViewer.Decimal.Single

/-!
# Master playlist tags

A master playlist lists variant streams (`#EXT-X-STREAM-INF`, with the URI on the next line,
and `#EXT-X-I-FRAME-STREAM-INF`), renditions (`#EXT-X-MEDIA`), session data and session keys.
A media playlist refuses them, naming the tag as it is written back: attributes in the order of
the specification, string values between quotes, unknown attributes dropped.

Reading a tag reads its attributes in order, so the first bad one is reported; a required
attribute missing is reported after all of them were read. A rendition is then checked as a
whole (`RenditionFields.check`).
-/

namespace LiveViewer.Playlist

/-- The HDCP level a stream requires. -/
inductive HdcpLevel where
  | type0
  | type1
  | none
  deriving DecidableEq, Repr

/-- Reads an HDCP level. -/
def HdcpLevel.read (s : String) : Except PlaylistError HdcpLevel :=
  if s = "TYPE-0" then .ok .type0
  else if s = "TYPE-1" then .ok .type1
  else if s = "NONE" then .ok .none
  else .error .noMatchingVariant

/-- The name of an HDCP level. -/
def HdcpLevel.text : HdcpLevel → String
  | .type0 => "TYPE-0"
  | .type1 => "TYPE-1"
  | .none => "NONE"

/-- Reads a resolution `WIDTHxHEIGHT`. -/
def readResolution (s : String) : Except PlaylistError (Nat × Nat) :=
  match s.toList.span (· != 'x') with
  | (_, []) => .error (.missingResolutionPart "height")
  | (w, _ :: h) => do
    let width := String.ofList w
    let height := String.ofList h
    return (← readNumber 64 width width, ← readNumber 64 height height)

/-- What every variant stream says about itself. -/
structure StreamData where
  /-- The peak bit rate. -/
  bandwidth : Nat
  averageBandwidth : Option Nat := none
  codecs : Option String := none
  resolution : Option (Nat × Nat) := none
  hdcpLevel : Option HdcpLevel := none
  video : Option String := none
  deriving DecidableEq, Repr

/-- What the attributes of a stream said so far. -/
structure StreamFields where
  bandwidth : Option Nat := none
  averageBandwidth : Option Nat := none
  codecs : Option String := none
  resolution : Option (Nat × Nat) := none
  hdcpLevel : Option HdcpLevel := none
  video : Option String := none

/-- Takes in one attribute of a stream. -/
def StreamFields.add (s : StreamFields) : String × String → Except PlaylistError StreamFields
  | (name, value) =>
    if name = "BANDWIDTH" then return { s with bandwidth := some (← readNumber 64 value value) }
    else if name = "AVERAGE-BANDWIDTH" then
      return { s with averageBandwidth := some (← readNumber 64 value value) }
    else if name = "CODECS" then pure { s with codecs := some (unquote value) }
    else if name = "RESOLUTION" then return { s with resolution := some (← readResolution value) }
    else if name = "HDCP-LEVEL" then return { s with hdcpLevel := some (← HdcpLevel.read value) }
    else if name = "VIDEO" then pure { s with video := some (unquote value) }
    else pure s

/-- Reads the stream attributes of an attribute list; the bandwidth is required. -/
def StreamData.read (input : String) : Except PlaylistError StreamData := do
  let s ← (attributePairs input).foldlM StreamFields.add {}
  match s.bandwidth with
  | none => throw (.missingValue "BANDWIDTH")
  | some bandwidth =>
    pure { bandwidth, averageBandwidth := s.averageBandwidth, codecs := s.codecs,
           resolution := s.resolution, hdcpLevel := s.hdcpLevel, video := s.video }

/-- An optional attribute written back after a comma. -/
def optionalText {α : Type} (name : String) (value : Option α) (write : α → String) : String :=
  (value.map fun v => "," ++ name ++ "=" ++ write v).getD ""

/-- The stream attributes written back. -/
def StreamData.text (d : StreamData) : String :=
  "BANDWIDTH=" ++ toString d.bandwidth ++
    optionalText "AVERAGE-BANDWIDTH" d.averageBandwidth toString ++
    optionalText "CODECS" d.codecs quoted ++
    optionalText "RESOLUTION" d.resolution (fun (w, h) => toString w ++ "x" ++ toString h) ++
    optionalText "HDCP-LEVEL" d.hdcpLevel HdcpLevel.text ++
    optionalText "VIDEO" d.video quoted

/-- The closed captions of a variant stream: none, or a rendition group. -/
inductive ClosedCaptions where
  | none
  | group (id : String)
  deriving DecidableEq, Repr

/-- Reads closed captions: `NONE`, or a quoted group. -/
def ClosedCaptions.read (s : String) : ClosedCaptions :=
  if Text.trim s = "NONE" then .none else .group (unquote s)

/-- Closed captions written back. -/
def ClosedCaptions.text : ClosedCaptions → String
  | .none => "NONE"
  | .group id => quoted id

/-- Reads a nonnegative single-precision attribute. -/
def readUnsignedSingle (s : String) : Except PlaylistError Decimal.Single :=
  match Decimal.Single.read s with
  | .error p => .error (.badFloat p s)
  | .ok x =>
    match x with
    | .infinite _ => .error (.notFinite x.text)
    | .nan => .error .notANumber
    | .finite true _ _ => .error (.notPositive x.text)
    | .finite false _ _ => .ok x

/-- A variant stream. -/
inductive VariantStream where
  /-- A stream of I-frames only. -/
  | iFrame (uri : String) (data : StreamData)
  /-- A stream with its URI, frame rate and rendition groups. -/
  | stream (uri : String) (frameRate : Option Decimal.Single) (audio subtitles : Option String)
      (closedCaptions : Option ClosedCaptions) (data : StreamData)
  deriving DecidableEq, Repr

/-- The tag of an I-frame stream. -/
def iFrameStreamTag : String := "#EXT-X-I-FRAME-STREAM-INF:"

/-- The tag of a variant stream. -/
def streamTag : String := "#EXT-X-STREAM-INF:"

/-- What the attributes of a variant stream said so far, besides its stream data. -/
structure VariantFields where
  frameRate : Option Decimal.Single := none
  audio : Option String := none
  subtitles : Option String := none
  closedCaptions : Option ClosedCaptions := none

/-- Takes in one attribute of a variant stream. -/
def VariantFields.add (v : VariantFields) : String × String → Except PlaylistError VariantFields
  | (name, value) =>
    if name = "FRAME-RATE" then return { v with frameRate := some (← readUnsignedSingle value) }
    else if name = "AUDIO" then pure { v with audio := some (unquote value) }
    else if name = "SUBTITLES" then pure { v with subtitles := some (unquote value) }
    else if name = "CLOSED-CAPTIONS" then
      pure { v with closedCaptions := some (ClosedCaptions.read value) }
    else pure v

/-- Reads a variant stream tag; a stream tag is followed by a line feed and its URI. -/
def VariantStream.read (input : String) : Except PlaylistError VariantStream :=
  match afterTag input iFrameStreamTag with
  | .ok rest => do
    let uri ← match (attributePairs rest).find? (·.1 == "URI") with
      | some (_, value) => pure (unquote value)
      | none => throw (.missingValue "URI")
    return .iFrame uri (← StreamData.read rest)
  | .error _ =>
    match afterTag input streamTag with
    | .error _ => .error .invalidInput
    | .ok rest =>
      match rest.splitOn "\n" with
      | first :: uri :: _ => do
        let v ← (attributePairs first).foldlM VariantFields.add {}
        let data ← StreamData.read first
        return .stream uri v.frameRate v.audio v.subtitles v.closedCaptions data
      | _ => .error (.missingValue "URI")

/-- A variant stream tag written back; the frame rate has three places. -/
def VariantStream.text : VariantStream → String
  | .iFrame uri data => iFrameStreamTag ++ "URI=" ++ quoted uri ++ "," ++ data.text
  | .stream uri frameRate audio subtitles closedCaptions data =>
    streamTag ++ data.text ++
      optionalText "FRAME-RATE" frameRate (Decimal.Single.fixed 3) ++
      optionalText "AUDIO" audio quoted ++
      optionalText "SUBTITLES" subtitles quoted ++
      optionalText "CLOSED-CAPTIONS" closedCaptions ClosedCaptions.text ++
      "\n" ++ uri

/-- The kind of media of a rendition. -/
inductive MediaType where
  | audio
  | video
  | subtitles
  | closedCaptions
  deriving DecidableEq, Repr

/-- Reads a media type. -/
def MediaType.read (s : String) : Except PlaylistError MediaType :=
  if s = "AUDIO" then .ok .audio
  else if s = "VIDEO" then .ok .video
  else if s = "SUBTITLES" then .ok .subtitles
  else if s = "CLOSED-CAPTIONS" then .ok .closedCaptions
  else .error .noMatchingVariant

/-- The name of a media type. -/
def MediaType.text : MediaType → String
  | .audio => "AUDIO"
  | .video => "VIDEO"
  | .subtitles => "SUBTITLES"
  | .closedCaptions => "CLOSED-CAPTIONS"

/-- The names of in-stream caption channels: `CC1` to `CC4` and `SERVICE1` to `SERVICE63`. -/
def instreamIds : List String :=
  (List.range' 1 4).map ("CC" ++ toString ·) ++ (List.range' 1 63).map ("SERVICE" ++ toString ·)

/-- Reads an in-stream caption channel. -/
def readInstreamId (s : String) : Except PlaylistError String :=
  if instreamIds.contains s then .ok s else .error .noMatchingVariant

/-- Reads audio channels: the count before the first `/`. -/
def readChannels (s : String) : Except PlaylistError Nat :=
  let count := (s.splitOn "/").headD s
  readNumber 64 count count

/-- A rendition of a variant stream. -/
structure Rendition where
  mediaType : MediaType
  uri : Option String := none
  groupId : String
  language : Option String := none
  assocLanguage : Option String := none
  name : String
  isDefault : Bool := false
  isAutoselect : Bool := false
  isForced : Bool := false
  instreamId : Option String := none
  characteristics : Option String := none
  channels : Option Nat := none
  deriving DecidableEq, Repr

/-- What the attributes of a rendition said so far. -/
structure RenditionFields where
  mediaType : Option MediaType := none
  uri : Option String := none
  groupId : Option String := none
  language : Option String := none
  assocLanguage : Option String := none
  name : Option String := none
  isDefault : Option Bool := none
  isAutoselect : Option Bool := none
  isForced : Option Bool := none
  instreamId : Option String := none
  characteristics : Option String := none
  channels : Option Nat := none

/-- Takes in one attribute of a rendition. -/
def RenditionFields.add (r : RenditionFields) : String × String → Except PlaylistError RenditionFields
  | (name, value) =>
    if name = "TYPE" then return { r with mediaType := some (← MediaType.read value) }
    else if name = "URI" then pure { r with uri := some (unquote value) }
    else if name = "GROUP-ID" then pure { r with groupId := some (unquote value) }
    else if name = "LANGUAGE" then pure { r with language := some (unquote value) }
    else if name = "ASSOC-LANGUAGE" then pure { r with assocLanguage := some (unquote value) }
    else if name = "NAME" then pure { r with name := some (unquote value) }
    else if name = "DEFAULT" then return { r with isDefault := some (← yesOrNo value) }
    else if name = "AUTOSELECT" then return { r with isAutoselect := some (← yesOrNo value) }
    else if name = "FORCED" then return { r with isForced := some (← yesOrNo value) }
    else if name = "INSTREAM-ID" then
      return { r with instreamId := some (← readInstreamId (unquote value)) }
    else if name = "CHARACTERISTICS" then pure { r with characteristics := some (unquote value) }
    else if name = "CHANNELS" then return { r with channels := some (← readChannels (unquote value)) }
    else pure r

/-- Checks the attributes of a rendition as a whole: a media type is required; closed captions
need an in-stream channel and no URI, which other media must not have; a default rendition
must be selected automatically; only subtitles may be forced. Then the group and the name are
required. -/
def RenditionFields.check (r : RenditionFields) : Except BuildProblem Rendition := do
  let some mediaType := r.mediaType | throw .missingMediaType
  if mediaType == .closedCaptions then
    if r.uri.isSome then throw (.unexpectedAttribute "URI")
    if r.instreamId.isNone then throw (.missingAttribute "INSTREAM-ID")
  else if r.instreamId.isSome then throw (.unexpectedAttribute "INSTREAM-ID")
  if r.isDefault == some true && r.isAutoselect != some true then
    throw (.defaultNotAutoselect r.isDefault r.isAutoselect)
  if mediaType != .subtitles && r.isForced.isSome then throw .invalidInput
  let some groupId := r.groupId | throw (.uninitialized "group_id")
  let some name := r.name | throw (.uninitialized "name")
  return { mediaType, uri := r.uri, groupId, language := r.language,
           assocLanguage := r.assocLanguage, name, isDefault := r.isDefault == some true,
           isAutoselect := r.isAutoselect == some true, isForced := r.isForced == some true,
           instreamId := r.instreamId, characteristics := r.characteristics,
           channels := r.channels }

/-- The tag of a rendition. -/
def renditionTag : String := "#EXT-X-MEDIA:"

/-- Reads a rendition tag. -/
def Rendition.read (input : String) : Except PlaylistError Rendition := do
  let rest ← afterTag input renditionTag
  let r ← (attributePairs rest).foldlM RenditionFields.add {}
  r.check.mapError .builder

/-- A flag written back when it is set. -/
def flagAttribute (name : String) (b : Bool) : String := if b then "," ++ name ++ "=YES" else ""

/-- A rendition tag written back. -/
def Rendition.text (r : Rendition) : String :=
  renditionTag ++ "TYPE=" ++ r.mediaType.text ++
    optionalText "URI" r.uri quoted ++
    ",GROUP-ID=" ++ quoted r.groupId ++
    optionalText "LANGUAGE" r.language quoted ++
    optionalText "ASSOC-LANGUAGE" r.assocLanguage quoted ++
    ",NAME=" ++ quoted r.name ++
    flagAttribute "DEFAULT" r.isDefault ++
    flagAttribute "AUTOSELECT" r.isAutoselect ++
    flagAttribute "FORCED" r.isForced ++
    optionalText "INSTREAM-ID" r.instreamId quoted ++
    optionalText "CHARACTERISTICS" r.characteristics quoted ++
    optionalText "CHANNELS" r.channels (quoted ∘ toString)

/-- Data of a session: a value or the URI of a document. -/
inductive SessionPayload where
  | value (text : String)
  | uri (text : String)
  deriving DecidableEq, Repr

/-- A session data tag. -/
structure SessionData where
  dataId : String
  payload : SessionPayload
  language : Option String := none
  deriving DecidableEq, Repr

/-- The tag of session data. -/
def sessionDataTag : String := "#EXT-X-SESSION-DATA:"

/-- What the attributes of session data said: identifier, value, URI and language. -/
abbrev SessionFields := Option String × Option String × Option String × Option String

/-- Takes in one attribute of session data. -/
def addSessionField : SessionFields → String × String → SessionFields
  | (i, v, u, l), (name, value) =>
    if name = "DATA-ID" then (some (unquote value), v, u, l)
    else if name = "VALUE" then (i, some (unquote value), u, l)
    else if name = "URI" then (i, v, some (unquote value), l)
    else if name = "LANGUAGE" then (i, v, u, some (unquote value))
    else (i, v, u, l)

/-- Reads a session data tag: an identifier, and a value or a URI but not both. -/
def SessionData.read (input : String) : Except PlaylistError SessionData := do
  let rest ← afterTag input sessionDataTag
  let (dataId, value, uri, language) := (attributePairs rest).foldl addSessionField (none, none, none, none)
  let some dataId := dataId | throw (.missingValue "EXT-X-DATA-ID")
  let payload ← match value, uri with
    | some v, none => pure (SessionPayload.value v)
    | some _, some _ => throw .sessionDataBoth
    | none, some u => pure (SessionPayload.uri u)
    | none, none => throw .sessionDataNeither
  return { dataId, payload, language }

/-- A session data tag written back. -/
def SessionData.text (d : SessionData) : String :=
  sessionDataTag ++ "DATA-ID=" ++ quoted d.dataId ++
    (match d.payload with
     | .value v => ",VALUE=" ++ quoted v
     | .uri u => ",URI=" ++ quoted u) ++
    optionalText "LANGUAGE" d.language quoted

/-- The tag of a session key. -/
def sessionKeyTag : String := "#EXT-X-SESSION-KEY:"

/-- A tag that only a master playlist may hold. -/
inductive MasterTag where
  | rendition (r : Rendition)
  | variant (v : VariantStream)
  | sessionData (d : SessionData)
  | sessionKey (k : DecryptionKey)
  deriving DecidableEq, Repr

/-- A master playlist tag written back. -/
def MasterTag.text : MasterTag → String
  | .rendition r => r.text
  | .variant v => v.text
  | .sessionData d => d.text
  | .sessionKey k => sessionKeyTag ++ k.text

end LiveViewer.Playlist
