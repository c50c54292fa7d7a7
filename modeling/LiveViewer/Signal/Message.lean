import LiveViewer.Json.Decode

/-!
# Signal messages and their wire form

The viewer and the server negotiate a peer session by exchanging signal messages over the
signaling link, one message per text frame. On the wire a message is a JSON object with one
member: the message's tag, holding an object of its fields under their wire names. An absent
optional field is written `null`.

A frame is read back by the typed decoders of `LiveViewer.Json.Decode`; a frame that is not a
message is kept with the reason it was refused.
-/

namespace LiveViewer

open Json

/-- A control message between the viewer and the server. -/
inductive SignalMessage where
  /-- A session description offered for a stream. -/
  | offer (streamKey sdp : String)
  /-- The session description that answers an offer. -/
  | answer (sdp : String)
  /-- A connectivity candidate, with the media section it belongs to when known. -/
  | iceCandidate (candidate : String) (sdpMid : Option String) (sdpMLineIndex : Option UInt16)
  /-- A failure reported by the server. -/
  | error (message : String)
  deriving DecidableEq, Repr, Inhabited

namespace SignalMessage

/-- The tags of the messages, in declaration order. -/
def tags : List String := ["Offer", "Answer", "IceCandidate", "Error"]

/-- The message's tag on the wire. -/
def tag : SignalMessage → String
  | .offer .. => "Offer"
  | .answer .. => "Answer"
  | .iceCandidate .. => "IceCandidate"
  | .error .. => "Error"

/-- An optional index as a JSON value. -/
def indexValue : Option UInt16 → Value
  | some n => Value.nat n.toNat
  | none => .null

/-- The fields of the message, under their wire names, in wire order. -/
def fields : SignalMessage → List (String × Value)
  | .offer k s => [("stream_key", .string k), ("sdp", .string s)]
  | .answer s => [("sdp", .string s)]
  | .iceCandidate c m i => [("candidate", .string c), ("sdp_mid", Value.optString m),
      ("sdp_mline_index", indexValue i)]
  | .error m => [("message", .string m)]

/-- The message as a JSON value: its tag holding its fields. -/
def toValue (m : SignalMessage) : Value := .object [(m.tag, .object m.fields)]

/-- The text frame that carries the message. -/
def encode (m : SignalMessage) : String := m.toValue.write

/-- A field of a message whose draft is a text. -/
def textField {σ : Type} (name : String) (get : σ → String → σ) : Decode.Field σ :=
  { name, read := fun d => do return get d (← Decode.string), required := true,
    positional := true }

/-- The content of the message with tag `t`. -/
def content (t : String) : Reader SignalMessage :=
  let what := "struct variant SignalMessage::" ++ t
  if t = "Offer" then do
    let (k, s) ← Decode.record what
      [textField "stream_key" fun d v => (v, d.2), textField "sdp" fun d v => (d.1, v)] ("", "")
    pure (.offer k s)
  else if t = "Answer" then do
    pure (.answer (← Decode.record what [textField "sdp" fun _ v => v] ""))
  else if t = "IceCandidate" then do
    let draft : String × Option String × Option Nat := ("", none, none)
    let (c, m, i) ← Decode.record what
      [textField "candidate" fun d v => (v, d.2),
       { name := "sdp_mid", read := fun d => do return (d.1, ← Decode.option Decode.string, d.2.2),
         required := false, positional := true },
       { name := "sdp_mline_index",
         read := fun d => do return (d.1, d.2.1, ← Decode.option Decode.u16),
         required := false, positional := true }] draft
    pure (.iceCandidate c m (i.map Nat.toUInt16))
  else do
    pure (.error (← Decode.record what [textField "message" fun _ v => v] ""))

/-- Reads a message: a tag with its content; a tag alone is refused, since every message has
fields. -/
def decoder : Reader SignalMessage :=
  Decode.variant tags content fun _ =>
    Reader.failData (.invalidType .unitVariant "struct variant")

end SignalMessage

/-- What an inbound text frame holds. -/
inductive Inbound where
  /-- A signal message. -/
  | message (m : SignalMessage)
  /-- Something else, with the reason it was refused. -/
  | unrecognized (raw reason : String)
  deriving DecidableEq, Repr

/-- Reads an inbound text frame. -/
def Inbound.ofFrame (raw : String) : Inbound :=
  match Decode.run SignalMessage.decoder raw with
  | .ok m => .message m
  | .error e => .unrecognized raw e.message

end LiveViewer
