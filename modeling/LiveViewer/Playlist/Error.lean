import LiveViewer.Decimal.Integer
import LiveViewer.Decimal.Read
import LiveViewer.Playlist.Basic
import LiveViewer.Text.Hex

/-!
# Why a playlist is refused

A playlist is refused while its lines are read, when a line does not say what its tag requires,
or afterwards, when the values assembled from the lines do not fit together (`BuildProblem`).
Each cause has its own constructor; the wording is in `PlaylistError.message` alone.
-/

namespace LiveViewer.Playlist

/-- A value assembled from several lines that does not fit together. -/
inductive BuildProblem where
  /-- A required part that no line gave. -/
  | uninitialized (field : String)
  | missingTargetDuration
  /-- A segment longer than the target duration allows. -/
  | segmentTooLong (actualNs maxNs targetNs : Nat) (uri : String)
  /-- A byte range without a start that does not continue a range of the same URI. -/
  | invalidInput
  /-- Independent segments of which some are encrypted with AES-128 and some are not. -/
  | mixedEncryption
  /-- A rendition without a media type. -/
  | missingMediaType
  /-- An attribute that the rendition's media type forbids. -/
  | unexpectedAttribute (name : String)
  /-- An attribute that the rendition's media type requires. -/
  | missingAttribute (name : String)
  /-- A default rendition that is not selected automatically, with the two values as given. -/
  | defaultNotAutoselect (isDefault isAutoselect : Option Bool)
  deriving DecidableEq, Repr

/-- An optional flag as debug text. -/
def flagText : Option Bool → String
  | none => "None"
  | some b => "Some(" ++ toString b ++ ")"

/-- The message of a build problem. -/
def BuildProblem.message : BuildProblem → String
  | .uninitialized f => "`" ++ f ++ "` must be initialized"
  | .missingTargetDuration => "missing field `target_duration`"
  | .segmentTooLong a m t u => "Too large segment duration: actual=" ++ durationText a ++
      ", max=" ++ durationText m ++ ", target_duration=" ++ durationText t ++ ", uri=" ++
      Text.quote u
  | .invalidInput => "invalid input"
  | .mixedEncryption =>
    "if any independent segment is encrypted with Aes128, all must be encrypted with Aes128"
  | .missingMediaType => "missing `media_type`"
  | .unexpectedAttribute a => "unexpected attribute: " ++ Text.quote a
  | .missingAttribute a => "missing attribute: " ++ Text.quote a
  | .defaultNotAutoselect d a => "If `DEFAULT` is true, `AUTOSELECT` has to be true too, Default: " ++
      flagText d ++ ", Autoselect: " ++ flagText a ++ "!"

/-- Why a playlist was refused. -/
inductive PlaylistError where
  /-- A text that does not start with the tag it must start with. -/
  | missingTag (tag input : String)
  | badInteger (problem : Decimal.IntError) (input : String)
  | badFloat (problem : Decimal.FloatSyntax) (input : String)
  | unknownVersion (input : String)
  /-- A tag that belongs to master playlists, as written back. -/
  | unexpectedTag (text : String)
  | invalidInput
  /-- A required attribute that is absent. -/
  | missingValue (name : String)
  /-- Text after a tag that takes no value. -/
  | unexpectedData (line : String)
  | unknownPlaylistType (text : String)
  /-- A name outside the names an attribute allows. -/
  | noMatchingVariant
  | notFinite (text : String)
  | notANumber
  /-- A negative value where only nonnegative ones are allowed. -/
  | notPositive (text : String)
  /-- A resolution without its width or height. -/
  | missingResolutionPart (part : String)
  /-- Session data with both a value and a URI. -/
  | sessionDataBoth
  /-- Session data with neither a value nor a URI. -/
  | sessionDataNeither
  /-- A date range marker `END-ON-NEXT` with a value other than `YES`. -/
  | endOnNextValue
  | badHex (problem : Text.HexProblem)
  /-- Segment tags after the last segment URI. -/
  | missingSegmentUri
  /-- A discontinuity sequence after the first segment. -/
  | lateDiscontinuitySequence
  | badDuration (problem : DurationProblem)
  | builder (problem : BuildProblem)
  deriving DecidableEq, Repr

/-- The message of a playlist error. -/
def PlaylistError.message : PlaylistError → String
  | .missingTag t i => "expected `" ++ t ++ "` at the start of " ++ Text.quote i
  | .badInteger p i => p.message ++ ": " ++ Text.quote i
  | .badFloat p i => p.message ++ ": " ++ Text.quote i
  | .unknownVersion i => "unknown protocol version " ++ Text.quote i
  | .unexpectedTag t => "unexpected tag: " ++ Text.quote t
  | .invalidInput => "invalid input"
  | .missingValue a => "a value is missing for the attribute " ++ a
  | .unexpectedData l => "Unexpected data in the line: " ++ Text.quote l
  | .unknownPlaylistType t => "unknown playlist type: " ++ Text.quote t
  | .noMatchingVariant => "Matching variant not found"
  | .notFinite t => "float must be finite: `" ++ t ++ "`"
  | .notANumber => "float must not be `NaN`"
  | .notPositive t => "float must be positive: `" ++ t ++ "`"
  | .missingResolutionPart p => "missing " ++ p ++ " for `Resolution` or an invalid input"
  | .sessionDataBoth => "unexpected URI"
  | .sessionDataNeither => "expected either `SessionData::Uri` or `SessionData::Value`"
  | .endOnNextValue => "The value of `END-ON-NEXT` has to be `YES`!"
  | .badHex p => p.message
  | .missingSegmentUri => "Missing URI for the last `MediaSegment`"
  | .lateDiscontinuitySequence =>
    "discontinuity sequence tag must appear before the first media segment in the playlist"
  | .badDuration p => p.message
  | .builder p => "builder error: " ++ p.message

/-- Reads an unsigned integer of `bits` bits, reporting `shown` on failure. -/
def readNumber (bits : Nat) (value shown : String) : Except PlaylistError Nat :=
  (Decimal.readUnsigned bits value).mapError (.badInteger · shown)

end LiveViewer.Playlist
