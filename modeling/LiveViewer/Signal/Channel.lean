import LiveViewer.Signal.Message
import LiveViewer.Url.Basic

/-!
# The outbound signaling channel

The controller's half of a signaling connection: the URL it was opened to and, while it is
held, the sending end of the connection's outbound queue. Delivery is best effort: a message
sent while the channel is closed, or while the far end no longer reads, is dropped and `send`
answers `false`. Closing gives up the sending end; it answers whether there was one.

The far end is a `Mailbox`: the frames handed over and not yet taken, and whether it still
reads. Frames reach it in the order they were sent (`send_frames`).
-/

namespace LiveViewer

/-- The receiving end of a signaling connection's outbound queue. -/
structure Mailbox where
  /-- Frames handed over and not yet taken, oldest first. -/
  frames : List String := []
  /-- Whether the far end still reads. -/
  reading : Bool := true
  deriving DecidableEq, Repr, Inhabited

namespace Mailbox

/-- Takes every waiting frame. -/
def take (m : Mailbox) : List String × Mailbox := (m.frames, { m with frames := [] })

/-- The far end stops reading; waiting frames are lost. -/
def drop (_ : Mailbox) : Mailbox := { frames := [], reading := false }

end Mailbox

/-- The controller's half of a signaling connection. -/
structure SignalingChannel where
  /-- Where the connection goes. -/
  url : Url
  /-- Whether the channel still holds the sending end. -/
  holding : Bool := true
  deriving DecidableEq, Repr

namespace SignalingChannel

/-- Whether a message sent now would be handed over. -/
def isOpen (c : SignalingChannel) (far : Mailbox) : Bool := c.holding && far.reading

/-- Sends a message: its frame is handed over when the channel is open. -/
def send (c : SignalingChannel) (far : Mailbox) (m : SignalMessage) : Bool × Mailbox :=
  if c.isOpen far then (true, { far with frames := far.frames ++ [m.encode] }) else (false, far)

/-- Gives up the sending end; answers whether the channel still held it. -/
def close (c : SignalingChannel) : Bool × SignalingChannel := (c.holding, { c with holding := false })

/-- Marks the channel closed, for a connection that ended on its own. -/
def markClosed (c : SignalingChannel) : SignalingChannel := { c with holding := false }

/-- A send hands over exactly the message's frame when the channel is open, and nothing
otherwise. -/
theorem send_frames (c : SignalingChannel) (far : Mailbox) (m : SignalMessage) :
    (c.send far m).2.frames = far.frames ++ (if c.isOpen far then [m.encode] else []) := by
  unfold send
  split <;> simp_all

end SignalingChannel

end LiveViewer
