import LiveViewer.Peer.Error
import LiveViewer.Peer.Offer
import LiveViewer.Sdp.Extension

/-!
# Negotiating the formats of a remote section

When an answer is set, its first audio and its first video section are matched against the
formats the peer offers for that medium:

1. each payload type of the section must be a number of 8 bits that an `rtpmap`, `fmtp` or
   `rtcp-fb` line of the section describes; payload type 0 needs none and is then left out.
   A format takes its encoding name from the first `rtpmap` line that names one, and its
   parameters from the first `fmtp` line that gives some;
2. a format matches when the peer offers an encoding of its name, case aside. A format whose
   parameters name the payload type it repairs (`apt`) matches only when that type matched
   before it, and its `apt` must be a number of 8 bits;
3. when some format matches, every header extension mapping of the section must read
   (`LiveViewer.Sdp.Extension`).
-/

namespace LiveViewer.Peer

open LiveViewer.Sdp

/-- A payload format as a remote section describes it. -/
structure RemoteFormat where
  payloadType : Nat
  /-- The encoding name; empty when no line names one. -/
  name : String := ""
  /-- The format parameters; empty when no line gives some. -/
  parameters : String := ""
  deriving DecidableEq, Repr

/-- The payload type after `key:` in the first word of a line, when it is a number of 8 bits. -/
def payloadTypeOf (head : String) : Option Nat :=
  match head.splitOn ":" with
  | [_, pt] => (Decimal.readUnsigned 8 pt).toOption
  | _ => none

/-- What an attribute says of a payload format, when it is an `rtpmap`, `fmtp` or `rtcp-fb`
line that reads. -/
def describedFormat (a : Attribute) : Option RemoteFormat :=
  let text := a.text
  if text.startsWith "rtpmap:" then
    match Text.words text with
    | [head, encoding] =>
      let parts := encoding.splitOn "/"
      let name := parts.headD ""
      match parts with
      | _ :: rate :: _ =>
        if (Decimal.readUnsigned 32 rate).toOption.isSome then
          (payloadTypeOf head).map ({ payloadType := ·, name })
        else none
      | _ => (payloadTypeOf head).map ({ payloadType := ·, name })
    | _ => none
  else if text.startsWith "fmtp:" then
    match Text.words text with
    | [head, parameters] => (payloadTypeOf head).map ({ payloadType := ·, parameters })
    | _ => none
  else if text.startsWith "rtcp-fb:" then
    match text.toList.span (· != ' ') with
    | (head, _ :: _) => (payloadTypeOf (String.ofList head)).map ({ payloadType := · })
    | _ => none
  else none

/-- The format of payload type `pt` as the lines `described` give it, if one describes it. -/
def formatOf (described : List RemoteFormat) (pt : Nat) : Option RemoteFormat :=
  let mine := described.filter (·.payloadType == pt)
  if mine.isEmpty then none
  else some { payloadType := pt,
              name := ((mine.map (·.name)).find? (!·.isEmpty)).getD "",
              parameters := ((mine.map (·.parameters)).find? (!·.isEmpty)).getD "" }

/-- The formats of a section, in the order of its media line. -/
def sectionFormats (m : MediaSection) : Except PeerError (List RemoteFormat) := do
  let described := m.attributes.filterMap describedFormat
  let found ← m.formats.mapM fun f => do
    let pt ← (Decimal.readUnsigned 8 f).mapError .integer
    match formatOf described pt with
    | some r => pure (some r)
    | none => if pt == 0 then pure none else throw .payloadTypeNotFound
  return found.filterMap id

/-- A character of an encoding name raised to upper case, for the letters that rise to ASCII:
the ASCII letters, the dotless `ı` and the long `ſ`. -/
def raiseChar (c : Char) : Char :=
  if c.isLower then c.toUpper
  else if c.toNat == 0x131 then 'I'
  else if c.toNat == 0x17F then 'S'
  else c

/-- Whether two encoding names are the same, case aside. -/
def sameName (a b : String) : Bool :=
  a.toList.map raiseChar == b.toList.map raiseChar

/-- The encoding name of a format the peer offers. -/
def Format.name (f : Format) : String := (f.encoding.splitOn "/").headD ""

/-- The value of the last `apt` parameter of format parameters `key=value;...`: the payload
type a retransmission format repairs. -/
def repairedType (parameters : String) : Option String :=
  let take (found : Option String) (p : String) : Option String :=
    match (Text.trim p).splitOn "=" with
    | key :: rest => if Text.asciiLower key == "apt" then some ("=".intercalate rest) else found
    | [] => found
  (parameters.splitOn ";").foldl take none

/-- The payload types of `formats` that match a format of `offered`, in order. A format that
repairs another matches only after it; an `apt` that is not a number of 8 bits fails. -/
def matchedTypes (offered : List Format) (formats : List RemoteFormat) :
    Except PeerError (List Nat) :=
  let step (matched : List Nat) (r : RemoteFormat) : Except PeerError (List Nat) := do
    let repairs ← match repairedType r.parameters with
      | some apt => some <$> (Decimal.readUnsigned 8 apt).mapError PeerError.integer
      | none => pure none
    let known := offered.any (sameName ·.name r.name)
    return if known && repairs.all matched.contains then matched ++ [r.payloadType] else matched
  formats.foldlM step []

/-- Negotiates a section against the formats the peer offers for its medium: its formats must
read, and once one matches, its header extension mappings must read too. -/
def negotiateSection (offered : List Format) (m : MediaSection) : Except PeerError Unit := do
  let matched ← matchedTypes offered (← sectionFormats m)
  if matched.isEmpty then return
  m.attributes.forM fun a =>
    if a.key == "extmap" then discard ((ExtensionMap.read a.text).mapError PeerError.sdp)
    else pure ()

end LiveViewer.Peer
