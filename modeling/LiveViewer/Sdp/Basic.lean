import LiveViewer.Decimal.Integer
import LiveViewer.Url.Host

/-!
# Session descriptions

A session description is a text of typed lines `x=value`. What a peer needs from one is its
attribute lines (`a=key` or `a=key:value`), at session level and in each media section, and
the media sections themselves: the kind of media, the port, the transport protocols and the
formats offered.

Reading a description can fail in five ways (`SdpError`): a line out of place or a type that is
not one letter (`malformed`), a value outside its registered set (`value`), a number that does
not read as one (`integer`), a URI that is not a URL (`url`), and repeat times before any
timing line (`emptyTime`). A header extension mapping, read only when its section is
negotiated, fails in a sixth (`extmap`).
-/

namespace LiveViewer.Sdp

/-- An attribute line. -/
structure Attribute where
  /-- The text before the first colon. -/
  key : String
  /-- The text after the first colon, when there is a colon. -/
  value : Option String
  deriving DecidableEq, Repr

/-- The attribute written as `key` or `key:value`. -/
def Attribute.ofText (text : String) : Attribute :=
  match text.splitOn ":" with
  | [] => { key := text, value := none }
  | [key] => { key, value := none }
  | key :: rest => { key, value := some (":".intercalate rest) }

/-- The attribute as written after `a=`. -/
def Attribute.text (a : Attribute) : String :=
  a.key ++ (a.value.map (":" ++ ·)).getD ""

/-- A media section. -/
structure MediaSection where
  /-- The kind of media: `audio`, `video`, `text`, `application` or `message`. -/
  media : String
  /-- The port. -/
  port : Nat
  /-- The transport protocols, such as `UDP`, `TLS`, `RTP`, `SAVPF`. -/
  protos : List String
  /-- The formats, payload types for RTP media. -/
  formats : List String
  /-- The attribute lines of the section, in order. -/
  attributes : List Attribute := []
  deriving DecidableEq, Repr

/-- A session description. -/
structure Description where
  /-- The session-level attribute lines, in order. -/
  attributes : List Attribute := []
  /-- The media sections, in order. -/
  media : List MediaSection := []
  deriving DecidableEq, Repr

/-- The value of the first session-level attribute named `key`, if it has one. -/
def Description.attribute (d : Description) (key : String) : Option String :=
  (d.attributes.find? (·.key == key)).bind (·.value)

/-- The first attribute of the section named `key`: `some none` when it has no value. -/
def MediaSection.attribute (m : MediaSection) (key : String) : Option (Option String) :=
  (m.attributes.find? (·.key == key)).map (·.value)

/-- Why a text is not a session description. -/
inductive SdpError where
  /-- A line out of place, a line type that is not one letter, or a value of the wrong shape. -/
  | malformed (text : String)
  /-- A value outside its registered set. -/
  | value (text : String)
  /-- A number that does not read. -/
  | integer (e : Decimal.IntError)
  /-- A URI that does not read as a URL. -/
  | url (e : Url.ParseError)
  /-- Repeat times with no timing line before them. -/
  | emptyTime
  /-- A header extension mapping that does not read. -/
  | extmap (text : String)
  deriving DecidableEq, Repr

/-- The message of a reading error. -/
def SdpError.message : SdpError → String
  | .malformed t => "SdpInvalidSyntax: " ++ t
  | .value t => "SdpInvalidValue: " ++ t
  | .integer e => "parse int: " ++ e.message
  | .url e => "parse url: " ++ e.message
  | .emptyTime => "sdp: empty time_descriptions"
  | .extmap t => "parse extmap: " ++ t

end LiveViewer.Sdp
