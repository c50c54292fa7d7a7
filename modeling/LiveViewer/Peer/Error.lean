import LiveViewer.Ice.Basic
import LiveViewer.Sdp.Basic

/-!
# Why a peer connection refuses a request

The signaling state of an offering connection, and the refusals of its requests with their
messages.
-/

namespace LiveViewer.Peer

open LiveViewer.Sdp

/-- The signaling state of an offering connection. -/
inductive Signaling where
  | stable
  | haveLocalOffer
  deriving DecidableEq, Repr

/-- The state as the signaling protocol names it. -/
def Signaling.label : Signaling → String
  | .stable => "stable"
  | .haveLocalOffer => "have-local-offer"

/-- Why the peer connection refused a request. -/
inductive PeerError where
  /-- An ICE server URL or a candidate is refused. -/
  | ice (e : Ice.IceError)
  /-- A TURN server without a user name or credential. -/
  | turnCredentials
  /-- A text that is not a session description. -/
  | sdp (e : SdpError)
  | closed
  | noRemoteDescription
  /-- A remote answer in a state that has no offer pending. -/
  | transition (before : Signaling)
  /-- A format that is not a payload type. -/
  | integer (e : Decimal.IntError)
  | payloadTypeNotFound
  | missingUfrag
  | missingPwd
  | conflictingUfrag
  | conflictingPwd
  | noFingerprint
  | conflictingFingerprints
  | invalidFingerprint
  /-- A remote candidate after the ICE agent was closed. -/
  | noAgent
  deriving DecidableEq, Repr

/-- The message of a refusal. -/
def PeerError.message : PeerError → String
  | .ice e => e.message
  | .turnCredentials => "turn server credentials required"
  | .sdp e => e.message
  | .closed => "connection closed"
  | .noRemoteDescription => "remote description is not set"
  | .transition s =>
    "invalid proposed signaling state transition from " ++ s.label ++ " applying remote answer"
  | .integer e => "parse int: " ++ e.message
  | .payloadTypeNotFound => "payload type not found"
  | .missingUfrag => "set_remote_description called with no ice-ufrag"
  | .missingPwd => "set_remote_description called with no ice-pwd"
  | .conflictingUfrag => "set_remote_description called with multiple conflicting ice-ufrag values"
  | .conflictingPwd => "set_remote_description called with multiple conflicting ice-pwd values"
  | .noFingerprint => "set_remote_description called with no fingerprint"
  | .conflictingFingerprints => "set_remote_description called with multiple conflicting fingerprint"
  | .invalidFingerprint => "set_remote_description called with an invalid fingerprint"
  | .noAgent => "ICEAgent does not exist"

end LiveViewer.Peer
