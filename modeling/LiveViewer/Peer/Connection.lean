import LiveViewer.Config
import LiveViewer.Error
import LiveViewer.Peer.Basic
import LiveViewer.Ice.Candidate
import LiveViewer.Ice.Server
import LiveViewer.Peer.Codec
import LiveViewer.Sdp.Read

/-!
# A peer connection that offers

The viewer's peer connection always makes the offer. Its signaling state is `stable` until it
sets its own offer (`have-local-offer`), and back to `stable` once the remote answer is set; a
new offer may replace the pending one. Closing the connection is final and may be repeated.

Creating a connection checks its ICE servers: every URL must read (`LiveViewer.Ice.Server`),
and a TURN server needs a user name and a credential. Before the check, a query is dropped
from each URL that starts with `stun`.

Setting the remote answer happens in steps, and a failure after the signaling step leaves the
answer set and the state `stable`:

1. the text must read as a session description (`LiveViewer.Sdp.Read`);
2. the connection must be open;
3. the signaling state must be `have-local-offer`;
4. the answer becomes the remote description;
5. the first audio and the first video section are negotiated (`LiveViewer.Peer.Codec`): their
   formats must read, and the header extension mappings of a section with a known format;
6. the ICE candidates of the sections must read, and the answer must have an ICE user
   fragment and password, the same wherever given;
7. unless an answer was set before, it must have one fingerprint, the same wherever given, of
   two words.

A remote candidate is refused while no remote description is set, and must read as a candidate
(`LiveViewer.Ice.Candidate`) after an optional `candidate:`; an empty one marks the end of the
candidates. Once the connection is closed, its ICE agent is gone.
-/

namespace LiveViewer.Peer

open LiveViewer.Sdp

/-- An offering peer connection. -/
structure Connection where
  /-- What it picked at random. -/
  secrets : PeerSecrets
  signaling : Signaling := .stable
  /-- The number of offers made. -/
  offers : Nat := 0
  /-- The remote description, once set. -/
  remote : Option Description := none
  /-- Whether an audio section was negotiated. -/
  audioNegotiated : Bool := false
  /-- Whether a video section was negotiated. -/
  videoNegotiated : Bool := false
  closed : Bool := false
  deriving Repr

/-- The URLs of a server as checked: a query dropped from those that start with `stun`. -/
def checkedUrls (s : IceServer) : List String :=
  s.urls.map fun u => if u.startsWith "stun" then (u.splitOn "?").headD u else u

/-- Checks the ICE servers of a new connection. -/
def checkServers (servers : List IceServer) : Except PeerError Unit :=
  servers.forM fun s =>
    (checkedUrls s).forM fun raw => do
      let url ← (Ice.ServerUrl.read raw).mapError .ice
      if url.scheme.isRelay && ((s.username.getD "").isEmpty || (s.credential.getD "").isEmpty) then
        throw .turnCredentials

/-- A new connection with `servers`, having picked `secrets`. -/
def Connection.create (servers : List IceServer) (secrets : PeerSecrets) :
    Except PeerError Connection := do
  checkServers servers
  return { secrets }

/-- The values of an attribute: at session level and in each section, where given. -/
def attributeValues (d : Description) (key : String) : List String :=
  (d.attribute key).toList ++ d.media.filterMap fun m => (m.attribute key).bind id

/-- Checks that `values` has one value, the same wherever given. -/
def agreed (values : List String) (missing conflicting : PeerError) : Except PeerError String :=
  match values with
  | [] => throw missing
  | v :: more => if more.all (· == v) then pure v else throw conflicting

/-- Checks the ICE details of an answer: its candidates, user fragment and password. -/
def checkIceDetails (d : Description) : Except PeerError Unit := do
  d.media.forM fun m =>
    m.attributes.forM fun a =>
      match a.value with
      | some v => if a.key == "candidate" then do let _ ← (Ice.Candidate.read v).mapError .ice
                  else pure ()
      | none => pure ()
  let ufrags := attributeValues d "ice-ufrag"
  let pwds := attributeValues d "ice-pwd"
  if ufrags.isEmpty then throw .missingUfrag
  if pwds.isEmpty then throw .missingPwd
  let _ ← agreed ufrags .missingUfrag .conflictingUfrag
  let _ ← agreed pwds .missingPwd .conflictingPwd

/-- Checks the fingerprint of an answer. -/
def checkFingerprint (d : Description) : Except PeerError Unit := do
  let fp ← agreed (attributeValues d "fingerprint") .noFingerprint .conflictingFingerprints
  if (fp.splitOn " ").length != 2 then throw .invalidFingerprint

/-- A step of a connection that may fail, keeping what it changed before failing. -/
abbrev PeerStep := ExceptT PeerError (StateM Connection)

namespace Connection

/-- Makes an offer and sets it as the local description: its text. -/
def createOffer : PeerStep String := do
  let c ← get
  if c.closed then throw .closed
  let version := c.offers + 1
  set { c with offers := version, signaling := .haveLocalOffer }
  return offerText c.secrets version

/-- Negotiates the first audio and the first video section of the answer. -/
def negotiate (d : Description) : PeerStep Unit :=
  d.media.forM fun m => do
    let c ← get
    let kind := Text.asciiLower m.media
    if kind == "audio" && !c.audioNegotiated then
      set { c with audioNegotiated := true }
      liftExcept (negotiateSection audioFormats m)
    else if kind == "video" && !c.videoNegotiated then
      set { c with videoNegotiated := true }
      liftExcept (negotiateSection videoFormats m)
    else pure ()
where
  liftExcept (e : Except PeerError Unit) : PeerStep Unit :=
    match e with
    | .ok () => pure ()
    | .error err => throw err

/-- Sets the remote answer. -/
def applyAnswer (text : String) : PeerStep Unit := do
  let d ← match Sdp.read text with
    | .ok d => pure d
    | .error e => throw (.sdp e)
  let c ← get
  if c.closed then throw .closed
  if c.signaling != .haveLocalOffer then throw (.transition c.signaling)
  let renegotiation := c.remote.isSome
  set { c with signaling := .stable, remote := some d }
  negotiate d
  match checkIceDetails d with
  | .error e => throw e
  | .ok () => pure ()
  if !renegotiation then
    match checkFingerprint d with
    | .error e => throw e
    | .ok () => pure ()

/-- Adds a remote candidate. -/
def addCandidate (candidate : String) (c : Connection) : Except PeerError Unit := do
  if c.remote.isNone then throw .noRemoteDescription
  let value := if candidate.startsWith "candidate:" then (candidate.drop 10).toString else candidate
  if value.isEmpty then return ()
  let _ ← (Ice.Candidate.read value).mapError .ice
  if c.closed then throw .noAgent

/-- Closes the connection. -/
def close (c : Connection) : Connection := { c with closed := true }

end Connection

/-- A call on the viewer's peer session, which reports refusals as transport errors. -/
abbrev PeerCall := ExceptT TransportError (StateM Connection)

/-- A refusal of the connection as a transport error. -/
def PeerError.toTransport (e : PeerError) : TransportError := .peer e.message

/-- Opens a peer session with `servers`, having picked `secrets`. -/
def openSession (servers : List IceServer) (secrets : PeerSecrets) :
    Except TransportError Connection :=
  (Connection.create servers secrets).mapError PeerError.toTransport

/-- Makes an offer and sets it locally: its text. -/
def offer : PeerCall String := ExceptT.adapt PeerError.toTransport Connection.createOffer

/-- Sets the remote answer. -/
def answer (sdp : String) : PeerCall Unit :=
  ExceptT.adapt PeerError.toTransport (Connection.applyAnswer sdp)

/-- Adds a candidate signaled by the remote peer; an empty one is refused before the connection
sees it. -/
def remoteCandidate (candidate : String) : PeerCall Unit := do
  if candidate.isEmpty then throw (.candidate "empty candidate")
  match (← get).addCandidate candidate with
  | .ok () => pure ()
  | .error e => throw e.toTransport

/-- The inbound video counters: none, as no media is ever received. -/
def inboundReport : PeerCall (Option InboundReport) := pure none

/-- Closes the session. -/
def shutdown : PeerCall Unit := modify Connection.close

end LiveViewer.Peer
