import LiveViewer.Controller.Basic

/-!
# The controller's timers

Three timers run beside a session. The stats timer reads the peer's inbound counters at once
and then every stats period; it runs only for a peer-to-peer session. The viewer-count timer
asks the stream information source at once and then every viewer-count period, while a session
is connected. The reconnect timer fires once, a delay after a connected peer session failed.

A stats reading counts only while connected: it moves the bitrate sampler and gives the
bitrate and the latency (the round trip rounded to whole milliseconds, when it is positive). A
viewer count is shown as soon as it arrives; a failed count changes nothing.
-/

namespace LiveViewer.Act

variable {W : Type} (c : Collaborators W)

/-- Stops the stats timer, if it runs. -/
def cancelStats : Act W Unit := do
  if let some id := (← current).timers.stats then
    touch (c.abort id)
    updateTimers fun t => { t with stats := none }

/-- Stops every timer; answers whether a reconnect was pending. -/
def cancelAll : Act W Bool := do
  cancelStats c
  if let some id := (← current).timers.viewerCount then
    touch (c.abort id)
    updateTimers fun t => { t with viewerCount := none }
  match (← current).timers.reconnect with
  | some (id, _) =>
    touch (c.abort id)
    updateTimers fun t => { t with reconnect := none }
    return true
  | none => return false

/-- Schedules one reconnect with `request` after `delayMs`, replacing a pending one. -/
def scheduleReconnect (request : ConnectRequest) (delayMs : Nat) : Act W Unit := do
  let id ← spawn c (.reconnectTimer delayMs)
  if let some (previous, _) := (← current).timers.reconnect then
    touch (c.abort previous)
  updateTimers fun t => { t with reconnect := some (id, request) }

/-- Starts reading the peer's counters, for a peer-to-peer session with a peer. -/
def startStatsSampler : Act W Unit := do
  let k ← current
  if k.timers.stats.isSome || k.transport != some .peerToPeer then return
  let some peer := k.session.bind (·.peer) | return
  update fun k => { k with sampler := k.sampler.reset }
  let id ← spawn c (.statsTimer peer k.config.statsPeriod)
  updateTimers fun t => { t with stats := some id }

/-- Starts counting viewers, when a stream information source is there. -/
def startViewerCountTimer : Act W Unit := do
  let k ← current
  if k.timers.viewerCount.isSome || !c.streamInfo then return
  let some s := k.session | return
  let id ← spawn c
    (.viewerTimer s.request.serverEndpoint s.request.streamKey k.config.viewerCountPeriod)
  updateTimers fun t => { t with viewerCount := some id }

/-- The latency shown for a round trip: positive round trips, rounded to whole milliseconds. -/
def latencyOf (roundTripMs : Option Float) : Option UInt32 :=
  match roundTripMs with
  | some ms => if ms > 0.0 then some ms.round.toUInt32 else none
  | none => none

/-- A stats reading, counted only while connected. -/
def onStatsReport (report : Option InboundReport) : Act W Unit := do
  let k ← current
  if k.status != .connected then return
  let some r := report | return
  let (kbps, sampler) := k.sampler.sample ⟨r.bytesReceived, r.timestampMs⟩
  let stats := { k.stats with bitrateKbps := kbps, latencyMs := latencyOf r.roundTripMs }
  update fun k => { k with sampler := sampler, stats := stats }
  publish

/-- A viewer count: shown when it arrived, ignored when the server could not be asked. -/
def onViewerCount (result : Except String UInt32) : Act W Unit := do
  match result with
  | .ok count =>
    update fun k => { k with stats := { k.stats with viewerCount := some count } }
    publish
  | .error _ => pure ()

end LiveViewer.Act
