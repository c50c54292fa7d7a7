import LiveViewer.Controller.Timers

/-!
# Ending a session

Releasing the live session stops its producers and the stats timer, forgets the bitrate
baseline and the derived figures, stops its segment engine, closes its peer session and its
signaling channel, and unbinds the surface. A session is released at most once: releasing
takes it out of the state.

A session ends in three ways. A disconnect stops every timer (a pending reconnect included),
moves to a new generation and, when a session was live, releases it, shows "Disconnected" and
logs it. A failed setup logs the error and ends the session. A connected peer session that
failed or disconnected ends the session as well, and schedules one reconnect with the same
request after the configured delay.
-/

namespace LiveViewer.Act

variable {W : Type} (c : Collaborators W)

/-- Releases every resource of the live session; answers whether there was one. -/
def releaseSession : Act W Bool := do
  let some s := (← current).session | return false
  update fun k => { k with session := none }
  for t in s.tasks do
    touch (c.abort t)
  cancelStats c
  update fun k => { k with sampler := k.sampler.reset, stats := {} }
  if let some (.engine e) := s.playback then
    touch (c.stopEngine e)
  if let some p := s.peer then
    touch (c.closePeer p)
  if let some (link, channel) := s.signaling then
    if channel.holding then
      touch (c.dropSender link)
  touch c.clearSource
  return true

/-- Releases the session after a failure and settles on Disconnected. -/
def endSession : Act W Unit := do
  let _ ← cancelAll c
  let _ ← releaseSession c
  update fun k => { k with status := .disconnected }
  setOverlay c (some disconnectedOverlay)
  publish

/-- Aborts a session whose setup failed. -/
def failSetup (error : ViewerError) : Act W Unit := do
  log c .error error.message
  endSession c

/-- The explicit disconnect: always a new generation; a release, an overlay and a log entry
only when a session was live. -/
def disconnect : Act W Unit := do
  let _ ← cancelAll c
  update fun k => { k with generation := k.generation + 1 }
  if !(← releaseSession c) then
    if (← current).status != .idle then
      update fun k => { k with status := .disconnected }
    publish
    return
  update fun k => { k with status := .disconnected }
  setOverlay c (some disconnectedOverlay)
  log c .info "Disconnected"
  publish

/-- A connected peer session failed: end the session and schedule one reconnect. -/
def transportFailure (state : PeerState) : Act W Unit := do
  log c .error (ViewerError.transport ("peer connection " ++ state.label)).message
  let request := (← current).session.map (·.request)
  endSession c
  if let some request := request then
    let delay := (← current).config.reconnectDelayMs
    log c .info ("Reconnecting in " ++ toString delay ++ " ms")
    scheduleReconnect c request delay

end LiveViewer.Act
