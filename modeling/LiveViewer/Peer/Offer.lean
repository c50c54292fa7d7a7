/-!
# The offer of a receive-only peer

A viewer's peer offers to receive one video and one audio stream, bundled on one transport, and
sends nothing. Its offer lists, for each medium, every payload format it can decode with the
RTCP feedback it answers, and asks for transport-wide congestion control sequence numbers.

The feedback of a video format is what the format itself supports (receiver-estimated
bandwidth, full intra requests, NACK, picture loss indication) followed by what the receiving
pipeline adds for every video format (NACK and picture loss indication again, and
transport-wide congestion control feedback); audio formats get only the latter's congestion
feedback. The forward error correction format supports nothing of its own.

The parts of the offer a peer picks at random (`PeerSecrets`) are its session id, its ICE user
fragment and password, and the fingerprint of its DTLS certificate.
-/

namespace LiveViewer.Peer

/-- A payload format of an offer. -/
structure Format where
  payloadType : Nat
  /-- The encoding with its clock rate, and channel count for audio. -/
  encoding : String
  /-- The format parameters, when it has some. -/
  parameters : Option String := none
  /-- The RTCP feedback, as type and parameter, supported by the format itself. -/
  feedback : List (String × String) := []
  deriving DecidableEq, Repr

/-- What a peer picks at random when it is created. -/
structure PeerSecrets where
  sessionId : Nat
  iceUfrag : String
  icePwd : String
  /-- The fingerprint of the DTLS certificate: hash function and colon-separated bytes. -/
  fingerprint : String
  deriving DecidableEq, Repr

/-- The feedback every video codec supports. -/
def videoFeedback : List (String × String) :=
  [("goog-remb", ""), ("ccm", "fir"), ("nack", ""), ("nack", "pli")]

/-- The feedback the receiving pipeline adds to every video format. -/
def pipelineVideoFeedback : List (String × String) :=
  [("nack", ""), ("nack", "pli"), ("transport-cc", "")]

/-- The feedback the receiving pipeline adds to every audio format. -/
def pipelineAudioFeedback : List (String × String) := [("transport-cc", "")]

/-- An H.264 format with its packetization mode and profile. -/
def h264 (payloadType mode : Nat) (profile : String) : Format :=
  { payloadType, encoding := "H264/90000",
    parameters := some ("level-asymmetry-allowed=1;packetization-mode=" ++ toString mode ++
      ";profile-level-id=" ++ profile),
    feedback := videoFeedback }

/-- The video formats, in order of preference. -/
def videoFormats : List Format :=
  [{ payloadType := 96, encoding := "VP8/90000", feedback := videoFeedback },
   { payloadType := 98, encoding := "VP9/90000", parameters := some "profile-id=0",
     feedback := videoFeedback },
   { payloadType := 100, encoding := "VP9/90000", parameters := some "profile-id=1",
     feedback := videoFeedback },
   h264 102 1 "42001f", h264 127 0 "42001f", h264 125 1 "42e01f", h264 108 0 "42e01f",
   h264 123 1 "640032", h264 118 1 "640028", h264 119 1 "640029", h264 120 1 "64002a",
   h264 121 1 "640033",
   { payloadType := 41, encoding := "AV1/90000", parameters := some "profile-id=0",
     feedback := videoFeedback },
   { payloadType := 126, encoding := "H265/90000", feedback := videoFeedback },
   { payloadType := 116, encoding := "ulpfec/90000" }]

/-- The audio formats, in order of preference. -/
def audioFormats : List Format :=
  [{ payloadType := 111, encoding := "opus/48000/2", parameters := some "minptime=10;useinbandfec=1" },
   { payloadType := 9, encoding := "G722/8000" },
   { payloadType := 0, encoding := "PCMU/8000" },
   { payloadType := 8, encoding := "PCMA/8000" }]

/-- The header extension for transport-wide congestion control. -/
def transportWideCc : String :=
  "http://www.ietf.org/id/draft-holmer-rmcat-transport-wide-cc-extensions-01"

/-- The attribute lines of a format, given the feedback the pipeline adds. -/
def Format.lines (added : List (String × String)) (f : Format) : List String :=
  let pt := toString f.payloadType
  ["a=rtpmap:" ++ pt ++ " " ++ f.encoding] ++
    (f.parameters.map fun p => ["a=fmtp:" ++ pt ++ " " ++ p]).getD [] ++
    (f.feedback ++ added).map fun (kind, param) => "a=rtcp-fb:" ++ pt ++ " " ++ kind ++ " " ++ param

/-- The lines of a receive-only media section. -/
def mediaLines (secrets : PeerSecrets) (media : String) (mid : Nat) (formats : List Format)
    (added : List (String × String)) : List String :=
  ["m=" ++ media ++ " 9 UDP/TLS/RTP/SAVPF " ++ " ".intercalate (formats.map (toString ·.payloadType)),
   "c=IN IP4 0.0.0.0",
   "a=setup:actpass",
   "a=mid:" ++ toString mid,
   "a=ice-ufrag:" ++ secrets.iceUfrag,
   "a=ice-pwd:" ++ secrets.icePwd,
   "a=rtcp-mux"] ++
    formats.flatMap (Format.lines added) ++
    ["a=extmap:1 " ++ transportWideCc, "a=recvonly"]

/-- The lines of the offer of version `version`. -/
def offerLines (secrets : PeerSecrets) (version : Nat) : List String :=
  ["v=0",
   "o=- " ++ toString secrets.sessionId ++ " " ++ toString version ++ " IN IP4 0.0.0.0",
   "s=-",
   "t=0 0",
   "a=fingerprint:" ++ secrets.fingerprint,
   "a=group:BUNDLE 0 1"] ++
    mediaLines secrets "video" 0 videoFormats pipelineVideoFeedback ++
    mediaLines secrets "audio" 1 audioFormats pipelineAudioFeedback

/-- The text of the offer of version `version`, each line ended by a carriage return and a line
feed. -/
def offerText (secrets : PeerSecrets) (version : Nat) : String :=
  String.join ((offerLines secrets version).map (· ++ "\r\n"))

end LiveViewer.Peer
