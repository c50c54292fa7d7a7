import LiveViewer.Ice.Address
import LiveViewer.Ice.Basic
import LiveViewer.Text.Blank

/-!
# ICE candidates

A candidate is an address at which a peer may be reached (RFC 8839):

`foundation component protocol priority address port typ kind [raddr A rport P] [tcptype T]`

Its words are read by place: the component and port are 16-bit numbers, the priority a 32-bit
number, the seventh word (`typ`) is not looked at, and the eighth is the kind, `host`, `srflx`
(server reflexive), `prflx` (peer reflexive) or `relay`. After them may come the related
address, whose port is the fourth word from `raddr`, or the TCP type.

The address must be an IP address, except that a host candidate may name an mDNS host ending
in `.local`; the protocol of a candidate with an IP address must start with `udp` or `tcp`, in
any case. A non-IP host address is refused in other words than a non-IP reflexive or relayed
one.
-/

namespace LiveViewer.Ice

/-- How a candidate address was found. -/
inductive CandidateKind where
  /-- An address of the peer's own interfaces. -/
  | host
  /-- The peer's address as a STUN server saw it. -/
  | serverReflexive
  /-- The peer's address as the other peer saw it. -/
  | peerReflexive
  /-- An address on a TURN relay. -/
  | relay
  deriving DecidableEq, Repr

/-- The kind written `name`, if it is one. -/
def CandidateKind.ofName : String → Option CandidateKind
  | "host" => some .host
  | "srflx" => some .serverReflexive
  | "prflx" => some .peerReflexive
  | "relay" => some .relay
  | _ => none

/-- A candidate that was read. -/
structure Candidate where
  foundation : String
  component : Nat
  /-- The transport protocol as written. -/
  protocol : String
  priority : Nat
  address : String
  port : Nat
  kind : CandidateKind
  /-- The related address and port, when given. -/
  related : Option (String × Nat) := none
  /-- The TCP type, when given. -/
  tcpType : Option String := none
  deriving DecidableEq, Repr

/-- Reads a 16- or 32-bit number of a candidate. -/
def candidateNumber (bits : Nat) (s : String) : Except IceError Nat :=
  (Decimal.readUnsigned bits s).mapError .integer

/-- Checks that a protocol is UDP or TCP. -/
def checkProtocol (protocol : String) : Except IceError Unit :=
  let low := Text.asciiLower protocol
  if low.startsWith "udp" || low.startsWith "tcp" then pure () else throw (.networkType protocol)

/-- Checks the address of a candidate of kind `kind` and its protocol. -/
def checkAddress (kind : CandidateKind) (address protocol : String) : Except IceError Unit :=
  if kind == .host && address.endsWith ".local" then pure ()
  else
    match IpAddress.read address with
    | some _ => checkProtocol protocol
    | none => throw (if kind == .host then .addressSyntax else .addressParse)

/-- Reads a candidate from the text after `candidate:`. -/
def Candidate.read (raw : String) : Except IceError Candidate :=
  match Text.words raw with
  | foundation :: component :: protocol :: priority :: address :: port :: _ :: kind :: extra => do
    let component ← candidateNumber 16 component
    let priority ← candidateNumber 32 priority
    let port ← candidateNumber 16 port
    let (related, tcpType) ← match extra with
      | "raddr" :: relAddress :: _ :: relPort :: _ => do
        let p ← candidateNumber 16 relPort
        pure (some (relAddress, p), none)
      | "raddr" :: _ => throw .relatedAddress
      | ["tcptype"] => throw .tcpType
      | "tcptype" :: t :: _ => pure (none, some t)
      | _ => pure (none, none)
    match CandidateKind.ofName kind with
    | none => throw (.candidateType kind)
    | some k => do
      checkAddress k address protocol
      return { foundation, component, protocol, priority, address, port, kind := k, related,
               tcpType }
  | ws => throw (.candidateTooShort ws.length)

end LiveViewer.Ice
