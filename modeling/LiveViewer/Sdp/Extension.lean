import LiveViewer.Sdp.Basic
import LiveViewer.Text.Blank
import LiveViewer.Url.Parse

/-!
# Header extension mappings

An `extmap` attribute maps an RTP header extension to the identifier it is sent under:
`extmap:<id>[/<direction>] <uri> [<attributes>]`. The identifier is a signed number from 1 to
246, the direction one of `sendrecv`, `sendonly`, `recvonly` and `inactive`, and the URI must
read as a URL. A third word is kept as the extension's attributes; with more words there are
none.

A mapping that does not read names what is wrong: the whole attribute when a part is missing,
the identifier when it is out of range, the direction when it is unknown. An identifier that is
not a number and a URI that is not a URL fail as such.
-/

namespace LiveViewer.Sdp

/-- Which way a stream or an extension flows. -/
inductive Direction where
  | sendRecv
  | sendOnly
  | recvOnly
  | inactive
  deriving DecidableEq, Repr

/-- The direction of a name, if it names one. -/
def Direction.ofName? : String → Option Direction
  | "sendrecv" => some .sendRecv
  | "sendonly" => some .sendOnly
  | "recvonly" => some .recvOnly
  | "inactive" => some .inactive
  | _ => none

/-- A header extension mapping. -/
structure ExtensionMap where
  /-- The identifier the extension is sent under. -/
  id : Int
  /-- The direction it applies to, when given. -/
  direction : Option Direction := none
  /-- The URI that names the extension. -/
  uri : Url
  /-- Its attributes, when given. -/
  attributes : Option String := none

/-- Reads the attribute text `extmap:...` of a header extension mapping. -/
def ExtensionMap.read (text : String) : Except SdpError ExtensionMap := do
  let value ← match (Text.trim text).splitOn ":" with
    | _ :: rest@(_ :: _) => pure (":".intercalate rest)
    | _ => throw (.extmap text)
  let fields := Text.words value
  let (idText, uriText) ← match fields with
    | idText :: uriText :: _ => pure (idText, uriText)
    | _ => throw (.extmap text)
  let parts := idText.splitOn "/"
  let first := parts.headD ""
  let id ← (Decimal.readSigned 64 first).mapError .integer
  if !(1 ≤ id && id ≤ 246) then
    throw (.extmap (first ++ " -- extmap key must be in the range 1-256"))
  let direction ← match parts with
    | [_, name] =>
      match Direction.ofName? name with
      | some d => pure (some d)
      | none => throw (.extmap ("unknown direction from " ++ name))
    | _ => pure none
  let uri ← (Url.parse uriText).mapError .url
  let attributes := match fields with
    | [_, _, a] => some a
    | _ => none
  return { id, direction, uri, attributes }

end LiveViewer.Sdp
