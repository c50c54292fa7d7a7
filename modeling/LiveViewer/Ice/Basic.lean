import LiveViewer.Decimal.Integer
import LiveViewer.Url.Host

/-!
# ICE errors

Interactive connectivity establishment (ICE) reads two kinds of text: the URLs of STUN and
TURN servers a peer may use, and the candidate addresses the remote peer signals. `IceError`
is why one of them is refused. Its messages are those of the ICE agent; several of them name
the failed check by its identifier, as the agent does.
-/

namespace LiveViewer.Ice

/-- Why an ICE server URL or a candidate is refused. -/
inductive IceError where
  /-- A URL without a scheme, or with one other than `stun`, `stuns`, `turn` and `turns`. -/
  | schemeType
  /-- A STUN URL with a query. -/
  | stunQuery
  /-- A TURN URL with a query other than one `transport`. -/
  | invalidQuery
  /-- A URL without a host. -/
  | host
  /-- A TURN URL whose `transport` is neither `udp` nor `tcp`. -/
  | protoType
  /-- A URL that does not read. -/
  | url (e : Url.ParseError)
  /-- A candidate of fewer than eight words; the number of words. -/
  | candidateTooShort (words : Nat)
  /-- A number of a candidate that does not read. -/
  | integer (e : Decimal.IntError)
  /-- A related address with too few words after `raddr`. -/
  | relatedAddress
  /-- A TCP type with no word after `tcptype`. -/
  | tcpType
  /-- A candidate type other than `host`, `srflx`, `prflx` and `relay`. -/
  | candidateType (kind : String)
  /-- A host candidate address that is not an IP address. -/
  | addressSyntax
  /-- The address of a reflexive or relayed candidate that is not an IP address. -/
  | addressParse
  /-- A candidate protocol that is neither UDP nor TCP. -/
  | networkType (network : String)
  deriving DecidableEq, Repr

/-- The message of an ICE error. -/
def IceError.message : IceError → String
  | .schemeType => "unknown scheme type"
  | .stunQuery => "queries not supported in stun address"
  | .invalidQuery => "invalid query"
  | .host => "invalid hostname"
  | .protoType => "invalid transport protocol type"
  | .url e => e.message
  | .candidateTooShort n => "ErrAttributeTooShortIceCandidate (" ++ toString n ++ ")"
  | .integer e => "parse int: " ++ e.message
  | .relatedAddress => "ErrParseRelatedAddr: incorrect length"
  | .tcpType => "ErrParseType: incorrect length"
  | .candidateType k => "ErrUnknownCandidateType (" ++ k ++ ")"
  | .addressSyntax => "parse addr: invalid IP address syntax"
  | .addressParse => "failed to parse address"
  | .networkType n => "ErrDetermineNetworkType: " ++ n

end LiveViewer.Ice
