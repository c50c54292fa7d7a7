import LiveViewer.Scenario.Run
import LiveViewer.Network

/-!
# Watching a stream in a terminal

The `watch` command runs a controller whose surface is the terminal: it prints what it would
play, `[overlay]` texts, and a line when playback stops; the controller's log lines are printed
with the time of day and their level, debug lines left out. Every five seconds, from the start,
a status line shows the session status and the derived figures. When the viewer is interrupted
it shuts the controller down and says goodbye.

The viewer here runs where the network has no route to any host (`LiveViewer.Network`): opening
the signaling socket fails with the system's error, and a segment engine's first playlist
request fails, which the engine reports at once.
-/

namespace LiveViewer.CommandLine

open LiveViewer.Scenario

/-- The line the terminal prints for what it was shown, if any; log lines carry the time of day
`clock`. -/
def printed (clock : String) : Shown → Option String
  | .log e => if e.level == .debug then none else some (clock ++ " " ++ e.level.label ++ " " ++ e.message)
  | .surface (.overlay (some text)) => some ("[" ++ text ++ "]")
  | .surface (.overlay none) => none
  | .surface (.setSource (.manifest url)) | .surface (.setSource (.segmentFeed url)) =>
    some ("▶ Playing " ++ url.text)
  | .surface (.setSource (.remote s)) =>
    some ("▶ Playing remote stream " ++ s.streamId ++ " (" ++ s.kind.label ++ ")")
  | .surface (.addTrack s) => some ("  + " ++ s.kind.label ++ " track " ++ s.trackId)
  | .surface .clearSource => some "■ Stopped"

/-- A figure of the status line: its value and unit, or `-`. -/
def figure (value : Option UInt32) (unit : String) : String :=
  match value with
  | some v => toString v.toNat ++ " " ++ unit
  | none => "-"

/-- The status line for a snapshot. -/
def statusLine (s : Snapshot) : String :=
  s.status.label ++ " | bitrate " ++ figure s.stats.bitrateKbps "kbps" ++ " | latency " ++
    figure s.stats.latencyMs "ms" ++ " | viewers " ++ figure s.stats.viewerCount ""

/-- Milliseconds between two status lines. -/
def statusPeriodMs : Nat := 5000

/-- The world of the terminal viewer: no route to any host. -/
def offlineWorld : World := { signalingFailure := some ("IO error: " ++ Network.unreachable) }

/-- A terminal viewer: its scene and the lines printed so far. -/
structure Viewer where
  /-- The controller and its world. -/
  scene : Scene
  /-- The lines printed, oldest first. -/
  lines : Array String := #[]

namespace Viewer

/-- Prints what the surface and the log were shown since the last time, and forgets it. -/
def flush (clock : String) (v : Viewer) : Viewer :=
  let w := v.scene.machine.world
  let shown := w.trace.shown.toList.filterMap (printed clock)
  { scene := v.scene.setWorld fun w => { w with trace := { w.trace with shown := #[] } },
    lines := v.lines ++ shown.toArray }

/-- Prints a line. -/
def print (line : String) (v : Viewer) : Viewer := { v with lines := v.lines.push line }

/-- The playlist segment engine `j` was started on. -/
def manifestOf (w : World) (j : Nat) : Option Url :=
  w.trace.engineCalls.toList.findSome? fun
    | .start k url => if k == j then some url else none
    | _ => none

/-- Every segment engine still listened to reports that its playlist request failed. -/
def failFetches (v : Viewer) : Viewer :=
  let w := v.scene.machine.world
  let listened := (List.range w.engines.size).filter fun j => w.engines[j]? == some true
  listened.foldl (fun v j =>
    match manifestOf v.scene.machine.world j with
    | some url =>
      { v with scene := (v.scene.engineReports j (.error (Network.requestFailure url).message)).2 }
    | none => v) v

/-- Runs the viewer until `stopAt` milliseconds, printing a status line at each multiple of the
status period before it; at most `fuel` status lines. -/
def runUntil (clock : String) (stopAt : Nat) : (fuel : Nat) → Viewer → Viewer
  | 0, v => v
  | fuel + 1, v =>
    let now := v.scene.machine.world.clock
    let tick := ((now + statusPeriodMs - 1) / statusPeriodMs) * statusPeriodMs
    if tick < stopAt then
      let v := { v with scene := v.scene.advance (tick - now) }
      let v := (failFetches v).flush clock
      let v := v.print (statusLine v.scene.machine.ctl.published)
      runUntil clock stopAt fuel { v with scene := v.scene.advance 1 }
    else
      let v := { v with scene := v.scene.advance (stopAt - now) }
      (failFetches v).flush clock

end Viewer

/-- Watches the configured stream until interrupted after `stopAfterMs` milliseconds: the lines
printed, and the failure that ended the run early or at shutdown, if any. -/
def watchStream (config : ViewerConfig) (stopAfterMs : Nat) (clock : String) :
    List String × Option ViewerError :=
  let header := "📺 Watching " ++ config.streamKey ++ " via " ++ config.transport.label
  let v : Viewer := { scene := Scene.start config offlineWorld true true, lines := #[header] }
  let (started, scene) := v.scene.command .toggle
  let v := (Viewer.failFetches { v with scene }).flush clock
  match started with
  | .error e => (v.lines.toList, some e)
  | .ok () =>
    let v := v.runUntil clock stopAfterMs (stopAfterMs / statusPeriodMs + 2)
    let (stopped, scene) := v.scene.command .shutdown
    let v := { v with scene }.flush clock
    match stopped with
    | .error e => (v.lines.toList, some e)
    | .ok () => ((v.print "👋 Viewer stopped").lines.toList, none)

end LiveViewer.CommandLine
