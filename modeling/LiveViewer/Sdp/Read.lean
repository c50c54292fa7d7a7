import LiveViewer.Sdp.Basic
import LiveViewer.Text.Blank
import LiveViewer.Url.Parse

/-!
# Reading a session description

A description is read line by line. Before each line the reader skips line breaks, then takes
the line's type: the text up to and including the first `=`, or to the end when there is none.
A type that is not one letter and `=`, or a letter the grammar does not allow at that point, is
a syntax error naming that text; the end of the text is allowed only where the description may
end, and is otherwise a syntax error naming the empty text. The value is the rest of the line,
without blanks at either end.

The grammar is the line order of a description, relaxed inside media sections:

`v o s i? u? e? p? c? b* (t r*)+ z? k? a* (m i? c? b* k? a*)*`

where after `m` the media lines `i c b k a` may come in any order. Each value is checked as
it is read; `Stage` says what may come next.
-/

namespace LiveViewer.Sdp

/-- Where the reader is in the grammar: what the last line was. -/
inductive Stage where
  /-- Nothing read yet. -/
  | start
  | afterVersion
  | afterOrigin
  | afterName
  /-- After a session connection or bandwidth line. -/
  | afterConnection
  | afterEmail
  | afterInformation
  | afterPhone
  /-- After a timing or repeat line. -/
  | afterTiming
  | afterUri
  /-- After a session attribute or key line. -/
  | afterAttribute
  | afterZones
  /-- Inside a media section. -/
  | inMedia
  deriving DecidableEq, Repr

/-- The line types allowed next. -/
def Stage.accepts : Stage → List Char
  | .start => ['v']
  | .afterVersion => ['o']
  | .afterOrigin => ['s']
  | .afterName => ['i', 'u', 'e', 'p', 'c', 'b', 't']
  | .afterConnection => ['b', 't']
  | .afterEmail => ['p', 'c', 'b', 't']
  | .afterInformation => ['u', 'e', 'p', 'c', 'b', 't']
  | .afterPhone => ['c', 'b', 't']
  | .afterTiming => ['z', 'k', 'a', 'r', 't', 'm']
  | .afterUri => ['e', 'p', 'c', 'b', 't']
  | .afterAttribute => ['a', 'm']
  | .afterZones => ['a', 'k', 'm']
  | .inMedia => ['a', 'k', 'b', 'c', 'i', 'm']

/-- Whether the description may end here. -/
def Stage.mayEnd : Stage → Bool
  | .afterTiming | .afterAttribute | .afterZones | .inMedia => true
  | _ => false

/-- Reads a number of `bits` bits. -/
def unsigned (bits : Nat) (s : String) : Except SdpError Nat :=
  (Decimal.readUnsigned bits s).mapError .integer

/-- Checks a connection line: network type `IN`, address type `IP4` or `IP6`. -/
def checkConnection (value : String) : Except SdpError Unit :=
  match Text.words value with
  | net :: addr :: _ =>
    if net != "IN" then throw (.value net)
    else if addr != "IP4" && addr != "IP6" then throw (.value addr)
    else pure ()
  | _ => throw (.malformed ("`c=" ++ value ++ "`"))

/-- Checks a bandwidth line `type:kbps`, with a registered type, one starting `X-`, or none. -/
def checkBandwidth (value : String) : Except SdpError Unit :=
  match value.splitOn ":" with
  | [kind, amount] => do
    if !kind.startsWith "X-" && !(["", "CT", "AS", "TIAS", "RS", "RR"].contains kind) then
      throw (.value kind)
    let _ ← unsigned 64 amount
  | _ => throw (.malformed ("`b=" ++ value ++ "`"))

/-- Reads a time, in seconds or with a unit `d`, `h`, `m` or `s`. -/
def timeUnits (value : String) : Except SdpError Int := do
  let (digits, factor) : String × Int :=
    match value.toList.getLast? with
    | some 'd' => ((value.dropEnd 1).toString, 86400)
    | some 'h' => ((value.dropEnd 1).toString, 3600)
    | some 'm' => ((value.dropEnd 1).toString, 60)
    | some 's' => ((value.dropEnd 1).toString, 1)
    | _ => (value, 1)
  let n ← (Decimal.readSigned 64 digits).mapError .integer
  let scaled := n * factor
  if scaled < -(Int.pow 2 63) || scaled ≥ Int.pow 2 63 then throw (.value value) else pure scaled

/-- Checks the origin line: user, session id, version, network and address types, address. -/
def checkOrigin (value : String) : Except SdpError Unit :=
  match Text.words value with
  | [_, session, version, net, addr, _] => do
    let _ ← unsigned 64 session
    let _ ← unsigned 64 version
    if net != "IN" then throw (.value net)
    if addr != "IP4" && addr != "IP6" then throw (.value addr)
  | _ => throw (.malformed ("`o=" ++ value ++ "`"))

/-- Checks a timing line: start and stop times. -/
def checkTiming (value : String) : Except SdpError Unit :=
  match Text.words value with
  | start :: stop :: _ => do
    let _ ← unsigned 64 start
    let _ ← unsigned 64 stop
  | _ => throw (.malformed ("`t=" ++ value ++ "`"))

/-- Checks a repeat line: interval, duration and at least one offset. -/
def checkRepeat (value : String) : Except SdpError Unit :=
  let ws := Text.words value
  if ws.length < 3 then throw (.malformed ("`r=" ++ value ++ "`"))
  else ws.forM fun w => do let _ ← timeUnits w

/-- Checks a time zones line: pairs of adjustment time and offset. -/
def checkZones (value : String) : Except SdpError Unit :=
  let ws := Text.words value
  if ws.length % 2 != 0 then throw (.malformed ("`t=" ++ value ++ "`"))
  else
    let rec pairs : List String → Except SdpError Unit
      | adjustment :: offset :: more => do
        let _ ← unsigned 64 adjustment
        let _ ← timeUnits offset
        pairs more
      | _ => pure ()
    pairs ws

/-- The registered media kinds. -/
def mediaKinds : List String := ["audio", "video", "text", "application", "message"]

/-- The registered transport protocol names. -/
def protoNames : List String :=
  ["UDP", "RTP", "AVP", "SAVP", "SAVPF", "TLS", "DTLS", "SCTP", "AVPF"]

/-- Reads a media line: kind, port with an optional count, protocols and formats. -/
def readMedia (value : String) : Except SdpError MediaSection :=
  match Text.words value with
  | media :: port :: protos :: format :: formats => do
    if !mediaKinds.contains media then throw (.value media)
    let portParts := port.splitOn "/"
    let p ← unsigned 16 (portParts.headD "")
    if let _ :: count :: _ := portParts then
      let _ ← (Decimal.readSigned 32 count).mapError SdpError.integer
    let names := protos.splitOn "/"
    if !names.all protoNames.contains then throw (.value protos)
    return { media, port := p, protos := names, formats := format :: formats }
  | _ => throw (.malformed ("`m=" ++ value ++ "`"))

/-- Adds an attribute to the last media section. -/
def addMediaAttribute (d : Description) (a : Attribute) : Description :=
  match d.media.getLast? with
  | some m => { d with media := d.media.dropLast ++ [{ m with attributes := m.attributes ++ [a] }] }
  | none => d

/-- Takes in a line of type `kind` with `value` at `stage`: the stage after it and the
description with it. -/
def takeLine (stage : Stage) (kind : Char) (value : String) (d : Description) :
    Except SdpError (Stage × Description) :=
  if stage == .inMedia then
    match kind with
    | 'm' => do
      let m ← readMedia value
      return (.inMedia, { d with media := d.media ++ [m] })
    | 'a' => pure (.inMedia, addMediaAttribute d (Attribute.ofText value))
    | 'b' => do checkBandwidth value; return (.inMedia, d)
    | 'c' => do checkConnection value; return (.inMedia, d)
    | _ => pure (.inMedia, d)
  else
    match kind with
    | 'v' => do
      let v ← unsigned 32 value
      if v != 0 then throw (.malformed value)
      return (.afterVersion, d)
    | 'o' => do checkOrigin value; return (.afterOrigin, d)
    | 's' => pure (.afterName, d)
    | 'i' => pure (.afterInformation, d)
    | 'u' =>
      match Url.parse value with
      | .ok _ => pure (.afterUri, d)
      | .error e => throw (.url e)
    | 'e' => pure (.afterEmail, d)
    | 'p' => pure (.afterPhone, d)
    | 'c' => do checkConnection value; return (.afterConnection, d)
    | 'b' => do checkBandwidth value; return (.afterConnection, d)
    | 't' => do checkTiming value; return (.afterTiming, d)
    | 'r' => do checkRepeat value; return (.afterTiming, d)
    | 'z' => do checkZones value; return (.afterZones, d)
    | 'a' => pure (.afterAttribute, { d with attributes := d.attributes ++ [Attribute.ofText value] })
    | 'm' => do
      let m ← readMedia value
      return (.inMedia, { d with media := d.media ++ [m] })
    | _ => pure (.afterAttribute, d)

/-- Whether a character breaks lines. -/
def isBreak (c : Char) : Bool := c == '\n' || c == '\r'

/-- The type text of the next line and the text after it: up to and including the first `=`. -/
def lineType (cs : List Char) : List Char × List Char :=
  match cs.span (· != '=') with
  | (before, '=' :: after) => (before ++ ['='], after)
  | (before, after) => (before, after)

/-- The value of a line and the text after it: up to and including the line feed. -/
def lineValue (cs : List Char) : String × List Char :=
  match cs.span (· != '\n') with
  | (before, _ :: after) => (Text.trim (String.ofList before), after)
  | (before, []) => (Text.trim (String.ofList before), [])

/-- Reads lines from `cs` at `stage` into `d`; `fuel` bounds the number of lines. -/
def readLines : (fuel : Nat) → Stage → List Char → Description → Except SdpError Description
  | 0, _, _, d => pure d
  | fuel + 1, stage, cs, d =>
    match cs.dropWhile isBreak with
    | [] => if stage.mayEnd then pure d else throw (.malformed "")
    | rest =>
      match lineType rest with
      | ([kind, '='], more) =>
        if stage.accepts.contains kind then do
          let (value, more) := lineValue more
          let (stage, d) ← takeLine stage kind value d
          readLines fuel stage more d
        else throw (.malformed (String.ofList [kind, '=']))
      | (text, _) => throw (.malformed (String.ofList text))

/-- Reads a session description. -/
def read (text : String) : Except SdpError Description :=
  readLines (text.length + 1) .start text.toList {}

end LiveViewer.Sdp
