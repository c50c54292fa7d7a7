/-!
# Session status and the connect control

A viewer is `idle` before its first connect, `connecting` while a session is being set up,
`connected` once media flows, and `disconnected` after a session ended. The connect control
shown to the user follows from the status alone (`Affordance.ofStatus`): it offers to connect,
greyed out while connecting, and offers to disconnect while connected.
-/

namespace LiveViewer

/-- Where the viewer stands. -/
inductive Status where
  /-- No session was ever started. -/
  | idle
  /-- A session is being set up. -/
  | connecting
  /-- Media flows. -/
  | connected
  /-- The last session ended. -/
  | disconnected
  deriving DecidableEq, Repr, Inhabited

namespace Status

/-- The status as shown to users. -/
def label : Status → String
  | .idle => "Idle"
  | .connecting => "Connecting"
  | .connected => "Connected"
  | .disconnected => "Disconnected"

/-- A fresh connect is accepted from `idle` and `disconnected`. -/
def isRestartable : Status → Bool
  | .idle | .disconnected => true
  | .connecting | .connected => false

end Status

/-- What the connect control does when pressed. -/
inductive Action where
  /-- Start a session. -/
  | connect
  /-- End the session. -/
  | disconnect
  deriving DecidableEq, Repr, Inhabited

/-- The name of an action as shown in the interface. -/
def Action.label : Action → String
  | .connect => "Connect"
  | .disconnect => "Disconnect"

/-- The connect control: what it does and whether it can be pressed. -/
structure Affordance where
  /-- What pressing does. -/
  action : Action
  /-- Whether it can be pressed. -/
  enabled : Bool
  deriving DecidableEq, Repr, Inhabited

namespace Affordance

/-- The control for a status: connect while idle or disconnected, connect greyed out while
connecting, disconnect while connected. -/
def ofStatus : Status → Affordance
  | .connecting => ⟨.connect, false⟩
  | .connected => ⟨.disconnect, true⟩
  | .idle | .disconnected => ⟨.connect, true⟩

/-- The caption of the control. -/
def label (a : Affordance) : String :=
  match a.action, a.enabled with
  | .connect, false => "Connecting..."
  | .connect, true => "Connect"
  | .disconnect, _ => "Disconnect"

/-- The control can be pressed in every status but `connecting`. -/
theorem ofStatus_enabled (s : Status) : (ofStatus s).enabled = (s != .connecting) := by
  cases s <;> rfl

end Affordance

end LiveViewer
