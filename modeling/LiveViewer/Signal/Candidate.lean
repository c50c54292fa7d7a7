import LiveViewer.Json.Decode
import LiveViewer.Text.Blank

/-!
# Remote candidates

A candidate from the server usually arrives as the candidate line itself, with its media
section beside it. Some servers wrap the whole candidate record, as a browser would write it,
in the candidate text: a JSON object with the members `candidate`, `sdpMid` and
`sdpMLineIndex` (also spelled `sdpMlineIndex`). When the text starts with a brace after
blanks and reads as such a record, the record's candidate is used, and its media section where
the record names one.
-/

namespace LiveViewer

open Json

/-- A candidate ready for the peer session. -/
structure RemoteCandidate where
  /-- The candidate line. -/
  candidate : String
  /-- The media section's identification tag, if known. -/
  sdpMid : Option String
  /-- The media section's index, if known. -/
  sdpMLineIndex : Option UInt16
  deriving DecidableEq, Repr, Inhabited

namespace RemoteCandidate

/-- What a wrapped record is read into: the candidate line, the media section's tag and its
index, each as far as the members read so far give it. -/
abbrev Draft := String × Option String × Option Nat

/-- The candidate line, which a record must give. -/
def candidateField : Decode.Field Draft :=
  { name := "candidate", read := fun d => do return (← Decode.string, d.2),
    required := true, positional := true }

/-- The media section's tag: a text, or `null` for none. -/
def midField : Decode.Field Draft :=
  { name := "sdpMid", read := fun d => do return (d.1, ← Decode.option Decode.string, d.2.2),
    required := false, positional := true }

/-- The media section's index: a 16-bit number, or `null` for none; also spelled
`sdpMlineIndex`. -/
def indexField : Decode.Field Draft :=
  { name := "sdpMLineIndex", aliases := ["sdpMlineIndex"],
    read := fun d => do return (d.1, d.2.1, ← Decode.option Decode.u16),
    required := false, positional := true }

/-- The fields of a wrapped candidate record. -/
def fields : List (Decode.Field Draft) := [candidateField, midField, indexField]

/-- Reads a wrapped candidate record. -/
def wrapped : Reader RemoteCandidate := do
  let (c, m, i) ← Decode.record "struct InnerIce" fields ("", none, none)
  pure ⟨c, m, i.map Nat.toUInt16⟩

/-- The candidate of a signal, unwrapped when the text is a wrapped record; the record's media
section wins over the one given beside it. -/
def ofSignal (candidate : String) (sdpMid : Option String) (sdpMLineIndex : Option UInt16) :
    RemoteCandidate :=
  let plain : RemoteCandidate := ⟨candidate, sdpMid, sdpMLineIndex⟩
  if (Text.trimStart candidate).startsWith "\x7b" then
    match Decode.run wrapped candidate with
    | .ok inner => ⟨inner.candidate, inner.sdpMid.or sdpMid, inner.sdpMLineIndex.or sdpMLineIndex⟩
    | .error _ => plain
  else plain

end RemoteCandidate

end LiveViewer
