/-!
# Inbound bitrate

The peer transport reports a running count of received bytes with a timestamp in
milliseconds. Two readings give a bitrate: eight times the byte difference over the elapsed
seconds, in kilobits per second, rounded half away from zero, and saturated at the largest
32-bit value. A reading that is not later than the previous one, or a count that did not
grow, gives no bitrate. Counts and times are doubles, as the transport reports them, so the
arithmetic is that of binary64.

A `Sampler` keeps only the last reading: every new reading replaces it, whether or not a
bitrate came out (`Sampler.sample_prev`).
-/

namespace LiveViewer.Stats

/-- One reading of the inbound counters. -/
structure Sample where
  /-- Bytes received so far. -/
  bytes : UInt64
  /-- When the reading was taken, in milliseconds. -/
  timestampMs : Float
  deriving Inhabited

/-- The largest 32-bit count, as a double. -/
def maxKbps : Float := 4294967295.0

/-- The bitrate between two readings in kilobits per second, if it is positive and finite. -/
def bitrateKbps (prev now : Sample) : Option UInt32 :=
  let elapsedMs := now.timestampMs - prev.timestampMs
  if elapsedMs ≤ 0.0 then none
  else
    let bytes := now.bytes.toFloat - prev.bytes.toFloat
    let kbps := (8.0 * bytes / (elapsedMs / 1000.0) / 1000.0).round
    if kbps ≤ 0.0 || !kbps.isFinite then none
    else some (min kbps maxKbps).toUInt32

/-- Derives bitrates from consecutive readings. -/
structure Sampler where
  /-- The last reading taken, if any since the last reset. -/
  prev : Option Sample := none
  deriving Inhabited

namespace Sampler

/-- Takes a reading: the bitrate from the previous one, if any, and the sampler holding the
new reading. -/
def sample (s : Sampler) (x : Sample) : Option UInt32 × Sampler :=
  (s.prev.bind fun p => bitrateKbps p x, { prev := some x })

/-- Forgets the previous reading. -/
def reset (_ : Sampler) : Sampler := {}

/-- A reading always becomes the baseline. -/
theorem sample_prev (s : Sampler) (x : Sample) : (s.sample x).2.prev = some x := rfl

/-- Right after a reset there is no bitrate. -/
theorem sample_reset (s : Sampler) (x : Sample) : (s.reset.sample x).1 = none := rfl

end Sampler

end LiveViewer.Stats
