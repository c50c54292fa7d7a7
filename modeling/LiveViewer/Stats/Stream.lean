import LiveViewer.Json.Decode

/-!
# Stream directory records

The server lists its streams as summaries (key, optional title, whether it is live, its
viewer count) and reports one stream's statistics as its viewer count, a free-form status and
its uptime in seconds. Only the stream key and the viewer count of the statistics are
required; the rest default to absent, false, zero and `null`.
-/

namespace LiveViewer

open Json

/-- One entry of the stream list. -/
structure StreamSummary where
  streamKey : String
  title : Option String := none
  isLive : Bool := false
  viewerCount : Nat := 0
  deriving Inhabited

/-- The statistics of one stream. -/
structure StreamStats where
  viewerCount : Nat
  /-- The server's status of the stream, as sent. -/
  status : Value := .null
  /-- Seconds since the stream was created. -/
  uptime : Int := 0
  deriving Inhabited

/-- Reads a stream summary. -/
def StreamSummary.decoder : Reader StreamSummary :=
  Decode.record "struct StreamSummary"
    [{ name := "stream_key", read := fun s => do return { s with streamKey := ← Decode.string },
       required := true, positional := true },
     { name := "title", read := fun s => do return { s with title := ← Decode.option Decode.string },
       required := false, positional := false },
     { name := "is_live", read := fun s => do return { s with isLive := ← Decode.bool },
       required := false, positional := false },
     { name := "viewer_count", read := fun s => do return { s with viewerCount := ← Decode.u32 },
       required := false, positional := false }]
    { streamKey := "" }

/-- Reads a stream's statistics. -/
def StreamStats.decoder : Reader StreamStats :=
  Decode.record "struct StreamStats"
    [{ name := "viewer_count", read := fun s => do return { s with viewerCount := ← Decode.u32 },
       required := true, positional := true },
     { name := "status", read := fun s => do return { s with status := ← Decode.anyValue },
       required := false, positional := false },
     { name := "uptime", read := fun s => do return { s with uptime := ← Decode.i64 },
       required := false, positional := false }]
    { viewerCount := 0 }

end LiveViewer
