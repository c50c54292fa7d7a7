import LiveViewer.Url.Host

/-!
# URLs

A URL as this library keeps it: a lowercase scheme, the encoded user name and password, the
host and port, the path, and the encoded query and fragment. The schemes `http`, `https`,
`ws`, `wss` and `ftp` are *special*: their URLs always have a host and a path that starts with
a slash, written as the list of its segments. Other URLs may have an opaque path.

The text of a URL is `scheme:`, then `//`, the user information and the host with its port
when there is a host, then the path, `?` and the query, `#` and the fragment.
-/

namespace LiveViewer.Url

/-- The port a special scheme uses when none is written. -/
def defaultPort : String → Option Nat
  | "http" => some 80
  | "https" => some 443
  | "ws" => some 80
  | "wss" => some 443
  | "ftp" => some 21
  | _ => none

/-- How a scheme shapes its URLs. -/
inductive SchemeKind where
  /-- A special scheme other than `file`. -/
  | special
  | file
  | other
  deriving DecidableEq, Repr

/-- The kind of a lowercase scheme. -/
def SchemeKind.of (scheme : String) : SchemeKind :=
  if scheme = "file" then .file
  else if (defaultPort scheme).isSome then .special
  else .other

/-- The path of a URL. -/
inductive UrlPath where
  /-- A path of segments, written each after a slash. -/
  | segments (items : List String)
  /-- A path that is not a list of segments, written as it is. -/
  | plain (text : String)
  deriving DecidableEq, Repr

/-- The path as written. -/
def UrlPath.text : UrlPath → String
  | .segments items => String.join (items.map ("/" ++ ·))
  | .plain t => t

end LiveViewer.Url

namespace LiveViewer

/-- A parsed URL. -/
structure Url where
  /-- The scheme, in lowercase. -/
  scheme : String
  /-- The user name, percent-encoded; empty when there is none. -/
  username : String
  /-- The password, percent-encoded, when there is one. -/
  password : Option String
  /-- The host, when the URL has an authority. -/
  host : Option Url.Host
  /-- The port, when one is written and differs from the scheme's default. -/
  port : Option Nat
  /-- The path. -/
  path : Url.UrlPath
  /-- The query, percent-encoded, without its `?`. -/
  query : Option String
  /-- The fragment, percent-encoded, without its `#`. -/
  fragment : Option String
  deriving DecidableEq, Repr

namespace Url

/-- The user information as written before the host, with its `@`. -/
def userinfo (u : Url) : String :=
  match u.password with
  | some p => u.username ++ ":" ++ p ++ "@"
  | none => if u.username.isEmpty then "" else u.username ++ "@"

/-- The text of the URL. -/
def text (u : Url) : String :=
  let authority :=
    match u.host with
    | some h => "//" ++ u.userinfo ++ h.text ++
        (match u.port with | some p => ":" ++ toString p | none => "")
    | none => ""
  u.scheme ++ ":" ++ authority ++ u.path.text ++
    (match u.query with | some q => "?" ++ q | none => "") ++
    (match u.fragment with | some f => "#" ++ f | none => "")

end Url

end LiveViewer
