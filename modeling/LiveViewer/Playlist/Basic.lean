import LiveViewer.Decimal.Single

/-!
# Media playlists

A media playlist lists the segments of a stream in order: each with its URI and duration,
numbered from the playlist's media sequence on. The numbers are 64-bit: past `2^64 - 1` they
wrap around to zero. It also gives the target duration, which no
segment may exceed once rounded to whole seconds, and whether the list has ended.

Durations are kept in nanoseconds. A segment duration is given in seconds as a double and
becomes the nearest number of nanoseconds, a tie going to the even one; a negative duration,
or one too large for 64-bit seconds, is refused.
-/

namespace LiveViewer.Playlist

/-- One segment of a media playlist. -/
structure Segment where
  /-- Its number: the media sequence plus its position, in 64-bit arithmetic. -/
  sequence : UInt64
  uri : String
  /-- Its duration in nanoseconds. -/
  durationNs : Nat
  deriving DecidableEq, Repr

/-- What a media playlist tells a player. -/
structure MediaPlaylist where
  /-- The target duration in nanoseconds. -/
  targetDurationNs : Nat
  mediaSequence : UInt64
  segments : List Segment
  /-- Whether the playlist carries its end marker. -/
  ended : Bool
  deriving DecidableEq, Repr

/-- Nanoseconds in a second. -/
def nanosPerSecond : Nat := 1000000000

/-- Why a number of seconds is not a duration. -/
inductive DurationProblem where
  | negative
  | tooLargeOrNaN
  deriving DecidableEq, Repr

/-- The message of a duration problem. -/
def DurationProblem.message : DurationProblem → String
  | .negative => "cannot convert float seconds to Duration: value is negative"
  | .tooLargeOrNaN => "cannot convert float seconds to Duration: value is either too big or NaN"

/-- A number of seconds as nanoseconds, rounded to the nearest, a tie to even. -/
def nanosOfSeconds (x : Float) : Except DurationProblem Nat :=
  if x < 0.0 then .error .negative
  else if x.isNaN || x.isInf || x ≥ 18446744073709551616.0 then .error .tooLargeOrNaN
  else if x == 0.0 then .ok 0
  else
    let (m, q, _) := Decimal.parts x
    if 0 ≤ q then .ok (m * Nat.pow 2 q.toNat * nanosPerSecond)
    else .ok (Decimal.roundHalfEven (m * nanosPerSecond) (Nat.pow 2 (-q).toNat))

/-- The digits of a fraction of `width` places, without trailing zeros. -/
def fractionDigits (frac width : Nat) : String :=
  let ds := Nat.toDigits 10 frac
  let padded := List.replicate (width - ds.length) '0' ++ ds
  String.ofList (padded.reverse.dropWhile (· = '0')).reverse

/-- A whole part, a fraction of `width` places and a unit, as in `2.49s`. -/
def withUnit (whole frac width : Nat) (unit : String) : String :=
  toString whole ++ (if frac = 0 then "" else "." ++ fractionDigits frac width) ++ unit

/-- A duration as debug text: seconds when at least one, else milliseconds, microseconds
or nanoseconds, with every significant fractional digit. -/
def durationText (ns : Nat) : String :=
  if ns ≥ nanosPerSecond then withUnit (ns / nanosPerSecond) (ns % nanosPerSecond) 9 "s"
  else if ns ≥ 1000000 then withUnit (ns / 1000000) (ns % 1000000) 6 "ms"
  else if ns ≥ 1000 then withUnit (ns / 1000) (ns % 1000) 3 "µs"
  else toString ns ++ "ns"

end LiveViewer.Playlist
