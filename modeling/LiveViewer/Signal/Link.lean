/-!
# Events of an open signaling connection

An open signaling connection delivers text frames (each expected to carry one signal message),
binary frames (of no use to the protocol, known only by their length), transport errors, and
at most once the news that the connection is gone.
-/

namespace LiveViewer

/-- Something an open signaling connection delivered. -/
inductive LinkEvent where
  /-- A text frame. -/
  | text (raw : String)
  /-- A binary frame of the given length in bytes. -/
  | binary (length : Nat)
  /-- A transport-level error, usually followed by `closed`. -/
  | error (message : String)
  /-- The connection is gone. -/
  | closed
  deriving DecidableEq, Repr, Inhabited

end LiveViewer
