import LiveViewer.Ice.Basic
import LiveViewer.Url.Parse
import LiveViewer.Text.Blank

/-!
# ICE server URLs

An ICE server is named `scheme:host[:port][?query]` (RFC 7064, RFC 7065), the scheme being
`stun`, `stuns`, `turn` or `turns`. It is read as the URL `scheme://host[:port][?query]`, so
the host and port follow the rules of URL authorities. The checks come in this order:

1. the text has a colon;
2. the URL reads;
3. it has a non-empty host (brackets around an IPv6 address are dropped);
4. the scheme is one of the four, and its query is allowed: none for STUN, and for TURN at most
   `transport=udp` or `transport=tcp`.

Without a port, `stun` and `turn` use 3478 and the secure schemes 5349. TURN runs over UDP and
TURNS over TCP unless the query says otherwise; STUN runs over UDP and STUNS over TCP.
-/

namespace LiveViewer.Ice

/-- The kind of server a URL names. -/
inductive Scheme where
  | stun
  | stuns
  | turn
  | turns
  deriving DecidableEq, Repr

/-- The scheme of a name, if it is one of the four. -/
def Scheme.ofName : String → Option Scheme
  | "stun" => some .stun
  | "stuns" => some .stuns
  | "turn" => some .turn
  | "turns" => some .turns
  | _ => none

/-- Whether the scheme names a relay, which needs credentials. -/
def Scheme.isRelay : Scheme → Bool
  | .turn | .turns => true
  | _ => false

/-- A server URL that was read. -/
structure ServerUrl where
  scheme : Scheme
  host : String
  port : Nat
  /-- Whether the server is reached over TCP rather than UDP. -/
  overTcp : Bool
  deriving DecidableEq, Repr

/-- The pairs of a query, each as its decoded key and value bytes; empty pieces are skipped. -/
def queryPairs (query : Option String) : List (List Nat × List Nat) :=
  let decode (cs : List Char) : List Nat :=
    Url.decodeBytes (cs.map fun c => if c == '+' then ' ' else c)
  match query with
  | none => []
  | some q =>
    ((q.splitOn "&").filter (· != "")).map fun piece =>
      match piece.toList.span (· != '=') with
      | (key, _ :: value) => (decode key, decode value)
      | (key, []) => (decode key, [])

/-- The bytes of an ASCII word. -/
def asciiBytes (s : String) : List Nat := s.toList.map Char.toNat

/-- The host of a URL as a server name: an IPv6 address without its brackets. -/
def serverHost (h : Url.Host) : String :=
  let text := (Text.trim h.text).toList
  String.ofList ((text.dropWhile (· == '[')).reverse.dropWhile (· == ']')).reverse

/-- Reads an ICE server URL. -/
def ServerUrl.read (raw : String) : Except IceError ServerUrl := do
  let (name, rest) := raw.toList.span (· != ':')
  if rest.isEmpty then throw .schemeType
  let u ← (Url.parse (String.ofList (name ++ [':', '/', '/'] ++ rest.drop 1))).mapError .url
  let host ← match u.host.map serverHost with
    | some h => if h.isEmpty then throw .host else pure h
    | none => throw .host
  let scheme ← match Scheme.ofName u.scheme with
    | some s => pure s
    | none => throw .schemeType
  let port := u.port.getD (if scheme == .stun || scheme == .turn then 3478 else 5349)
  let pairs := queryPairs u.query
  let overTcp ← match scheme with
    | .stun | .stuns => if pairs.isEmpty then pure (scheme == .stuns) else throw .stunQuery
    | .turn | .turns =>
      match pairs with
      | [] => pure (scheme == .turns)
      | [(key, value)] =>
        if key != asciiBytes "transport" then throw .invalidQuery
        else if value == asciiBytes "udp" then pure false
        else if value == asciiBytes "tcp" then pure true
        else throw .protoType
      | _ => throw .invalidQuery
  return { scheme, host, port, overTcp }

end LiveViewer.Ice
