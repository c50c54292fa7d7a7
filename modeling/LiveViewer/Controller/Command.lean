import LiveViewer.Controller.Dispatch

/-!
# Commands

What a holder of the controller asks for: toggle (disconnect a connecting or connected
session, otherwise connect with the configured request), connect, disconnect, report a
playback observation (it sets the overlay, and an error is also logged), and shut down
(disconnect and stop taking commands). When every holder is gone the controller disconnects
and stops as on a shutdown.

A controller that stopped refuses every command with `controllerClosed`.
-/

namespace LiveViewer

/-- A request to the controller. -/
inductive Command where
  | toggle
  | connect (request : ConnectRequest)
  | disconnect
  | playback (event : PlaybackEvent)
  | shutdown
  deriving Inhabited

namespace Act

variable {W : Type} (c : Collaborators W)

/-- A playback observation: only the overlay follows it; an error is also logged. -/
def handlePlayback (event : PlaybackEvent) : Act W Unit := do
  if let .error message := event then
    log c .error (ViewerError.playback message).message
  setOverlay c event.overlayText
  publish

/-- Stops taking commands after a last disconnect. -/
def stop : Act W Unit := do
  disconnect c
  update fun k => { k with running := false }

/-- Handles one command and answers it. -/
def handleCommand (cmd : Command) : Act W (Except ViewerError Unit) := do
  if !(← current).running then
    return .error .controllerClosed
  match cmd with
  | .toggle =>
    let k ← current
    if k.status.isRestartable then
      connect c k.config.connectRequest
    else
      disconnect c
      return .ok ()
  | .connect request => connect c request
  | .disconnect =>
    disconnect c
    return .ok ()
  | .playback event =>
    handlePlayback c event
    return .ok ()
  | .shutdown =>
    stop c
    return .ok ()

end Act

end LiveViewer
