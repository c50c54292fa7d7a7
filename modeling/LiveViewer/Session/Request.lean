import LiveViewer.Text.Blank
import LiveViewer.Session.Transport

/-!
# Connect requests

A connect request names a stream, the server that carries it, and a transport. Before a
connection starts, both texts are trimmed of blanks; an empty stream key is refused first,
then an empty endpoint (`validated_error_iff`).
-/

namespace LiveViewer

/-- The parameters of one connection attempt. -/
structure ConnectRequest where
  /-- The stream to watch. -/
  streamKey : String
  /-- The server, as typed. -/
  serverEndpoint : String
  /-- How the media is delivered. -/
  transport : TransportKind
  deriving DecidableEq, Repr, Inhabited

/-- A field that a connect request must not leave blank. -/
inductive RequiredField where
  | streamKey
  | serverEndpoint
  deriving DecidableEq, Repr, Inhabited

/-- Why the field was refused. -/
def RequiredField.message : RequiredField → String
  | .streamKey => "stream key is required"
  | .serverEndpoint => "server endpoint is required"

namespace ConnectRequest

/-- The request with both texts trimmed, or the first blank field. -/
def validated (r : ConnectRequest) : Except RequiredField ConnectRequest :=
  let key := Text.trim r.streamKey
  let endpoint := Text.trim r.serverEndpoint
  if key.isEmpty then .error .streamKey
  else if endpoint.isEmpty then .error .serverEndpoint
  else .ok { r with streamKey := key, serverEndpoint := endpoint }

/-- Validation fails exactly on a blank key, or on a blank endpoint after a good key. -/
theorem validated_error_iff (r : ConnectRequest) (f : RequiredField) :
    r.validated = .error f ↔
      ((Text.trim r.streamKey).isEmpty ∧ f = .streamKey) ∨
      ((Text.trim r.streamKey).isEmpty = false ∧ (Text.trim r.serverEndpoint).isEmpty ∧
        f = .serverEndpoint) := by
  unfold validated
  by_cases hk : (Text.trim r.streamKey).isEmpty <;>
    by_cases he : (Text.trim r.serverEndpoint).isEmpty <;>
    cases f <;> simp [hk, he]

end ConnectRequest

end LiveViewer
