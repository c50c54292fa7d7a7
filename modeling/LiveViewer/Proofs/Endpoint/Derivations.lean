import LiveViewer.Proofs.Endpoint.StreamKey
import Mathlib.Data.List.Induction
import Mathlib.Data.List.DropRight

/-!
# The five URLs of an endpoint agree

The signaling socket, the HTTP base, the stream list, a stream's playlist and its statistics are
all built from one reading of the endpoint: its text is read as a URL (`Endpoint.parse`), its
scheme passes the security check (`isSecure`), and each URL is rebuilt from the URL read and the
secure choice alone (`derive`). So either all five fail, with one error, or all succeed
(`derive_cases`): once the scheme passed the check, the URL read has a host and a path of
segments, so setting the scheme and pushing segments never refuse it (`bind_withScheme`). The
URLs keep the same user information, host and port of the endpoint and carry no query and no
fragment (`Derived`), and all take the secure scheme exactly when the endpoint's is `https` or
`wss`.

A fixed suffix is added to the base path with its trailing slashes removed (`trimSlashes`).
Since no segment read holds a slash, removing the trailing empty segments does exactly that
(`text_dropTrailingEmpty`).

An endpoint without `://` is read as `http://` followed by its trimmed text, so it gives the
URLs of that text, and the same errors, except that an error names the endpoint as it was typed
(`derive_schemeless`). Whether an endpoint names a scheme is told by that substring alone: an
endpoint in which it occurs is read as it is (`parse_marked`), also a bare `host:port/path` whose
path holds `://` (`bracketed_host_with_scheme_marker`).
Main statement: `derivations_agree`.
-/

namespace LiveViewer

open Url

namespace Endpoint

/-- A URL rebuilt from the endpoint, read, and the secure choice its scheme makes. -/
def derive (build : Url → Bool → Except EndpointError Url) (e : String) :
    Except EndpointError Url := do
  let u ← Endpoint.parse e
  let secure ← isSecure u
  build u secure

/-- All URLs built from one endpoint fail alike, or all are built from the same reading. -/
theorem derive_cases (e : String) :
    (∃ err, ∀ build, derive build e = .error err) ∨
      ∃ u secure, Endpoint.parse e = .ok u ∧ isSecure u = .ok secure ∧
        ∀ build, derive build e = build u secure := by
  cases hu : Endpoint.parse e with
  | error err => exact .inl ⟨err, fun build => by rw [derive, hu]; rfl⟩
  | ok u =>
    cases hs : isSecure u with
    | error err =>
      exact .inl ⟨err, fun build => by simp only [derive, hu, bind, Except.bind, hs]⟩
    | ok secure =>
      refine .inr ⟨u, secure, rfl, hs, fun build => ?_⟩
      simp only [derive, hu, bind, Except.bind, hs]

theorem httpBaseUrl_eq_derive (e : String) :
    httpBaseUrl e = derive (withScheme · · false) e :=
  rfl

theorem signalingUrl_eq_derive (e : String) :
    signalingUrl e =
      derive (fun u s => do pure (appendPath (← withScheme u s true) signalingPath)) e :=
  rfl

/-- A URL built from a derived one is derived too. -/
theorem derive_bind (build : Url → Bool → Except EndpointError Url)
    (f : Url → Except EndpointError Url) (e : String) :
    (derive build e >>= f) = derive (fun u s => build u s >>= f) e := by
  simp only [derive, bind_assoc]

theorem streamsUrl_eq_derive (e : String) :
    streamsUrl e =
      derive (fun u s => do pure (appendPath (← withScheme u s false) streamsPath)) e :=
  derive_bind _ _ e

theorem manifestUrl_eq_derive (e k : String) :
    manifestUrl e k =
      derive (fun u s => do pushSegments (← withScheme u s false) ["hls", k, "playlist.m3u8"]) e :=
  derive_bind _ _ e

theorem streamStatsUrl_eq_derive (e k : String) :
    streamStatsUrl e k = derive (fun u s => do
      pushSegments (appendPath (← withScheme u s false) streamsPath) [k, "stats"]) e := by
  rw [streamStatsUrl, streamsUrl_eq_derive, derive_bind]
  simp only [bind_assoc, pure_bind]

/-- After the security check every URL is built on the endpoint read under the chosen scheme. -/
theorem bind_withScheme {e : String} {u : Url} {secure : Bool} (hu : Endpoint.parse e = .ok u)
    (hs : isSecure u = .ok secure) (socket : Bool) (f : Url → Except EndpointError Url) :
    (withScheme u secure socket >>= f) = f { u with scheme := schemeFor secure socket } := by
  rw [withScheme_secured hu hs]
  rfl

/-! ## What every URL keeps of the endpoint -/

/-- What a URL built from the endpoint read as `u` keeps of it: its user information, host and
port; and it carries neither query nor fragment. -/
structure Derived (u v : Url) : Prop where
  username : v.username = u.username
  password : v.password = u.password
  host : v.host = u.host
  port : v.port = u.port
  query : v.query = none
  fragment : v.fragment = none

/-- The endpoint read is the URL read from its text, less its query and fragment. -/
theorem parse_ok {e : String} {u : Url} (h : Endpoint.parse e = .ok u) :
    ∃ t v, Url.parse t = .ok v ∧ u = { v with query := none, fragment := none } := by
  unfold Endpoint.parse at h
  extract_lets trimmed candidate at h
  split at h
  · next v hv =>
    cases h
    exact ⟨candidate, v, hv, rfl⟩
  · cases h

theorem Derived.of_parse {e : String} {u : Url} (h : Endpoint.parse e = .ok u) : Derived u u := by
  obtain ⟨t, v, -, rfl⟩ := parse_ok h
  exact ⟨rfl, rfl, rfl, rfl, rfl, rfl⟩

theorem Derived.setScheme {u v : Url} (h : Derived u v) (scheme : String) :
    Derived u { v with scheme } :=
  ⟨h.username, h.password, h.host, h.port, h.query, h.fragment⟩

theorem Derived.appendPath {u v : Url} (h : Derived u v) (suffix : List String) :
    Derived u (appendPath v suffix) := by
  unfold Endpoint.appendPath
  split <;> exact ⟨h.username, h.password, h.host, h.port, h.query, h.fragment⟩

theorem Derived.pushSegments {u v w : Url} (h : Derived u v) {more : List String}
    (hw : pushSegments v more = .ok w) : Derived u w := by
  unfold Endpoint.pushSegments at hw
  split at hw
  · cases hw
    exact ⟨h.username, h.password, h.host, h.port, h.query, h.fragment⟩
  · cases hw

/-! ## The secure choice -/

/-- The security check passes the HTTP and WebSocket schemes, and chooses the secure scheme
exactly for `https` and `wss`. -/
theorem isSecure_ok {u : Url} {secure : Bool} (h : isSecure u = .ok secure) :
    (secure = true ↔ u.scheme = "https" ∨ u.scheme = "wss") := by
  unfold isSecure at h
  split at h
  · next hs =>
    cases h
    rcases (by simpa using hs : u.scheme = "http" ∨ u.scheme = "ws") with hs | hs <;> simp [hs]
  · split at h
    · next hs =>
      cases h
      simpa using hs
    · cases h

theorem appendPath_scheme (u : Url) (suffix : List String) :
    (appendPath u suffix).scheme = u.scheme := by
  unfold appendPath
  split <;> rfl

theorem pushSegments_scheme {v w : Url} {more : List String} (hw : pushSegments v more = .ok w) :
    w.scheme = v.scheme := by
  unfold pushSegments at hw
  split at hw
  · cases hw
    rfl
  · cases hw

/-! ## Paths -/

/-- A path's text with its trailing slashes removed. -/
def trimSlashes (t : String) : String :=
  String.ofList (t.toList.reverse.dropWhile (· = '/')).reverse

theorem text_segments_append (xs ys : List String) :
    (UrlPath.segments (xs ++ ys)).text =
      (UrlPath.segments xs).text ++ (UrlPath.segments ys).text := by
  simp [UrlPath.text, String.join_append]

/-- A slash at the end is removed with the others. -/
theorem trimSlashes_append_slash (t : String) : trimSlashes (t ++ "/") = trimSlashes t := by
  simp [trimSlashes]

/-- A text that ends in a character other than a slash has no trailing slash to remove. -/
theorem trimSlashes_of_last {t : String} {c : Char} {init : List Char}
    (hlast : t.toList = init ++ [c]) (hc : c ≠ '/') : trimSlashes t = t := by
  rw [trimSlashes, hlast, List.reverse_append, List.reverse_singleton, List.singleton_append,
    List.dropWhile_cons_of_neg (by simpa using hc), List.reverse_cons, List.reverse_reverse,
    ← hlast, String.ofList_toList]

theorem dropTrailingEmpty_concat (segs : List String) (s : String) :
    dropTrailingEmpty (segs ++ [s]) = if s = "" then dropTrailingEmpty segs else segs ++ [s] := by
  unfold dropTrailingEmpty
  split <;> simp_all

/-- Removing the trailing empty segments of a path whose segments hold no slash removes the
trailing slashes of its text; by induction from the last segment. -/
theorem text_dropTrailingEmpty {segs : List String} (h : SlashFree segs) :
    (UrlPath.segments (dropTrailingEmpty segs)).text =
      trimSlashes (UrlPath.segments segs).text := by
  induction segs using List.reverseRecOn with
  | nil => rfl
  | append_singleton segs s ih =>
    have hsegs : SlashFree segs := fun x hx => h x (List.mem_append_left _ hx)
    have hs : '/' ∉ s.toList := h s (by simp)
    rw [dropTrailingEmpty_concat, text_segments_append]
    split
    · -- an empty last segment only adds a slash
      next he =>
      subst he
      rw [ih hsegs]
      exact (trimSlashes_append_slash _).symm
    · -- the last segment ends in a character that is no slash, which ends the text
      next hne =>
      obtain ⟨init, c, hlast⟩ :=
        (List.eq_nil_or_concat s.toList).resolve_left (by simpa using hne)
      rw [List.concat_eq_append] at hlast
      have hc : c ≠ '/' := by
        rintro rfl
        exact hs (by simp [hlast])
      have htext : (UrlPath.segments (segs ++ [s])).text.toList =
          ((UrlPath.segments segs).text.toList ++ '/' :: init) ++ [c] := by
        simp [UrlPath.text, hlast]
      rw [← text_segments_append]
      exact (trimSlashes_of_last htext hc).symm

/-- A fixed suffix follows the path with its trailing slashes removed. -/
theorem appendPath_text {v : Url} {segs : List String} (hp : v.path = .segments segs)
    (h : SlashFree segs) (suffix : List String) :
    (appendPath v suffix).path.text =
      trimSlashes v.path.text ++ (UrlPath.segments suffix).text := by
  rw [appendPath, hp]
  simp only
  rw [text_segments_append, text_dropTrailingEmpty h]

theorem signalingPath_text : (UrlPath.segments signalingPath).text = "/api/webrtc/ws" := by
  decide

theorem streamsPath_text : (UrlPath.segments streamsPath).text = "/api/streams" := by
  decide

/-- An endpoint that passes the security check has a path of segments, none holding a slash. -/
theorem secured_path {e : String} {u : Url} {secure : Bool} (h : Endpoint.parse e = .ok u)
    (hs : isSecure u = .ok secure) : ∃ segs, u.path = .segments segs ∧ SlashFree segs := by
  obtain ⟨t, v, hv, rfl⟩ := parse_ok h
  rcases Url.parse_segments hv with hp | hother
  · exact hp
  · rw [show v.scheme = ({ v with query := none, fragment := none } : Url).scheme from rfl,
      isSecure_special hs] at hother
    cases hother

/-! ## Endpoints without a scheme -/

/-- The error as it names the endpoint `e`: a URL that does not read names the endpoint it came
from; a refused scheme names only the scheme. -/
def naming (e : String) : EndpointError → EndpointError
  | .invalid _ reason => .invalid e reason
  | .unsupportedScheme s => .unsupportedScheme s

/-- Text whose first and last characters are not blank is kept whole by trimming. -/
theorem trimChars_of_ends {l : List Char} (hfront : l.dropWhile Text.isBlank = l)
    (hback : l.reverse.dropWhile Text.isBlank = l.reverse) : Text.trimChars l = l := by
  rw [Text.trimChars, hfront, hback, List.reverse_reverse]

/-- Trimmed text behind `http://` needs no more trimming. -/
theorem trim_http (e : String) :
    Text.trim ("http://" ++ Text.trim e) = "http://" ++ Text.trim e := by
  -- the kept characters end in a non-blank, read from the back
  have hkept : (Text.trimChars e.toList).reverse.dropWhile Text.isBlank =
      (Text.trimChars e.toList).reverse := by
    rw [Text.trimChars, List.reverse_reverse, List.dropWhile_idempotent]
  have hchars : Text.trimChars ("http://".toList ++ Text.trimChars e.toList) =
      "http://".toList ++ Text.trimChars e.toList := by
    apply trimChars_of_ends
    · exact List.dropWhile_cons_of_neg (by decide)
    · rw [List.reverse_append, List.dropWhile_append, hkept]
      split
      · next hnil =>
        rw [List.isEmpty_iff.1 hnil, List.nil_append]
        exact List.dropWhile_cons_of_neg (by decide)
      · rfl
  apply String.ext
  simp only [Text.trim, String.toList_ofList, String.toList_append]
  exact hchars

/-- An endpoint without `://` is read as `http://` and its trimmed text, and an error names it as
it was typed. -/
theorem parse_schemeless {e : String} (h : ¬"://".toList <:+: (Text.trim e).toList) :
    Endpoint.parse e = (Endpoint.parse ("http://" ++ Text.trim e)).mapError (naming e) := by
  have hl : "://".toList.isInfixOf_internal (Text.trim e).toList = false :=
    Bool.eq_false_iff.2 (mt List.isInfixOf_internal_iff_isInfix.1 h)
  have hr : "://".toList.isInfixOf_internal ("http://" ++ Text.trim e).toList = true :=
    List.isInfixOf_internal_iff_isInfix.2 ⟨"http".toList, (Text.trim e).toList, by simp⟩
  simp only [Endpoint.parse, hl, trim_http, hr, if_true, Bool.false_eq_true, if_false]
  cases Url.parse ("http://" ++ Text.trim e) <;> rfl

/-- An endpoint in which `://` occurs is read as it is, trimmed, and an error names it as it was
typed. -/
theorem parse_marked {e : String} (h : "://".toList <:+: (Text.trim e).toList) :
    Endpoint.parse e = match Url.parse (Text.trim e) with
      | .ok v => .ok { v with query := none, fragment := none }
      | .error err => .error (.invalid e err.message) := by
  have hm : "://".toList.isInfixOf_internal (Text.trim e).toList = true :=
    List.isInfixOf_internal_iff_isInfix.2 h
  cases hv : Url.parse (Text.trim e) <;> simp only [Endpoint.parse, hm, if_true, hv]

/-- The security check refuses only by naming the scheme. -/
theorem isSecure_error {u : Url} {err : EndpointError} (h : isSecure u = .error err) :
    err = .unsupportedScheme u.scheme := by
  unfold isSecure at h
  split at h
  · cases h
  · split at h
    · cases h
    · cases h
      rfl

/-- A URL built from an endpoint without `://` is the one built from `http://` and its trimmed
text, and fails as that one does, naming the endpoint as it was typed, when its build succeeds on
every endpoint read that passed the security check. -/
theorem derive_schemeless {build : Url → Bool → Except EndpointError Url} {e : String}
    (h : ¬"://".toList <:+: (Text.trim e).toList)
    (hb : ∀ u secure, Endpoint.parse ("http://" ++ Text.trim e) = .ok u →
      isSecure u = .ok secure → ∃ v, build u secure = .ok v) :
    derive build e = (derive build ("http://" ++ Text.trim e)).mapError (naming e) := by
  rw [derive, derive, parse_schemeless h]
  cases hu : Endpoint.parse ("http://" ++ Text.trim e) with
  | error err => rfl
  | ok u =>
    cases hs : isSecure u with
    | error err =>
      simp only [Except.mapError, bind, Except.bind, hs, isSecure_error hs, naming]
    | ok secure =>
      obtain ⟨v, hv⟩ := hb u secure hu hs
      simp only [Except.mapError, bind, Except.bind, hs, hv]

/-- After the security check the URLs that push segments are built: the endpoint read has a path
of segments. -/
theorem pushed_ok {e : String} {u : Url} {secure : Bool} (hu : Endpoint.parse e = .ok u)
    (hs : isSecure u = .ok secure) (f : Url → Url) (hf : ∀ v segs, v.path = .segments segs →
      ∃ segs', (f v).path = .segments segs') (more : List String) :
    ∃ w, (withScheme u secure false >>= fun b => pushSegments (f b) more) = .ok w := by
  obtain ⟨segs, hp, -⟩ := secured_path hu hs
  obtain ⟨segs', hp'⟩ := hf { u with scheme := schemeFor secure false } segs hp
  rw [bind_withScheme hu hs]
  exact ⟨_, pushSegments_segments hp' more⟩

/-! ## The five URLs -/

/-- The five URLs of an endpoint `e` agree. Either all fail with one error, or all are built
from the endpoint read as `u`: they keep its user information, host and port, carry no query
and no fragment, and take the secure scheme (`wss` for the signaling socket, `https` for the
other four) exactly when the scheme of `u` is `https` or `wss`; the signaling socket and the
stream list add their paths to the HTTP base path with its trailing slashes removed. An endpoint
without `://` gives the URLs of `http://` followed by its trimmed text, and fails as that one
does, naming the endpoint as it was typed; one in which `://` occurs is read as it is. -/
theorem derivations_agree (e : String) :
    ((∃ err, signalingUrl e = .error err ∧ httpBaseUrl e = .error err ∧
        streamsUrl e = .error err ∧
        ∀ k, manifestUrl e k = .error err ∧ streamStatsUrl e k = .error err) ∨
      ∃ u secure, Endpoint.parse e = .ok u ∧
        (secure = true ↔ u.scheme = "https" ∨ u.scheme = "wss") ∧
        ∃ s b l, signalingUrl e = .ok s ∧ httpBaseUrl e = .ok b ∧ streamsUrl e = .ok l ∧
          Derived u s ∧ Derived u b ∧ Derived u l ∧
          s.scheme = (if secure then "wss" else "ws") ∧
          b.scheme = (if secure then "https" else "http") ∧ l.scheme = b.scheme ∧
          s.path.text = trimSlashes b.path.text ++ "/api/webrtc/ws" ∧
          l.path.text = trimSlashes b.path.text ++ "/api/streams" ∧
          ∀ k, ∃ m t, manifestUrl e k = .ok m ∧ streamStatsUrl e k = .ok t ∧
            Derived u m ∧ Derived u t ∧ m.scheme = b.scheme ∧ t.scheme = b.scheme) ∧
    (¬"://".toList <:+: (Text.trim e).toList →
      signalingUrl e = (signalingUrl ("http://" ++ Text.trim e)).mapError (naming e) ∧
      httpBaseUrl e = (httpBaseUrl ("http://" ++ Text.trim e)).mapError (naming e) ∧
      streamsUrl e = (streamsUrl ("http://" ++ Text.trim e)).mapError (naming e) ∧
      ∀ k, manifestUrl e k = (manifestUrl ("http://" ++ Text.trim e) k).mapError (naming e) ∧
        streamStatsUrl e k =
          (streamStatsUrl ("http://" ++ Text.trim e) k).mapError (naming e)) ∧
    ("://".toList <:+: (Text.trim e).toList →
      Endpoint.parse e = match Url.parse (Text.trim e) with
        | .ok v => .ok { v with query := none, fragment := none }
        | .error err => .error (.invalid e err.message)) := by
  refine ⟨?_, fun h => ?_, parse_marked⟩
  · rcases derive_cases e with ⟨err, herr⟩ | ⟨u, secure, hu, hs, hok⟩
    · -- the reading or the security check failed, and every URL with it
      refine .inl ⟨err, ?_, ?_, ?_, fun k => ⟨?_, ?_⟩⟩
      · rw [signalingUrl_eq_derive, herr]
      · rw [httpBaseUrl_eq_derive, herr]
      · rw [streamsUrl_eq_derive, herr]
      · rw [manifestUrl_eq_derive, herr]
      · rw [streamStatsUrl_eq_derive, herr]
    · -- every URL is rebuilt from `u` under the chosen scheme
      obtain ⟨segs, hp, hfree⟩ := secured_path hu hs
      have hd := Derived.of_parse hu
      let base : Url := { u with scheme := schemeFor secure false }
      have hbase : base.path = .segments segs := hp
      have hsocket : ({ u with scheme := schemeFor secure true } : Url).path = .segments segs := hp
      have hlist : (appendPath base streamsPath).path =
          .segments (dropTrailingEmpty segs ++ streamsPath) := by
        rw [appendPath, hbase]
      refine .inr ⟨u, secure, hu, isSecure_ok hs,
        appendPath { u with scheme := schemeFor secure true } signalingPath, base,
        appendPath base streamsPath, ?_, ?_, ?_,
        (hd.setScheme _).appendPath _, hd.setScheme _, (hd.setScheme _).appendPath _,
        by rw [appendPath_scheme]; cases secure <;> rfl, by cases secure <;> rfl,
        appendPath_scheme _ _, ?_, ?_, fun k => ?_⟩
      · rw [signalingUrl_eq_derive, hok, bind_withScheme hu hs]
        rfl
      · rw [httpBaseUrl_eq_derive, hok, withScheme_secured hu hs]
      · rw [streamsUrl_eq_derive, hok, bind_withScheme hu hs]
        rfl
      · rw [appendPath_text hsocket hfree, signalingPath_text]
      · rw [appendPath_text hbase hfree, streamsPath_text]
      · -- the keyed URLs push their segments onto the base path and the stream list path
        have hman := pushSegments_segments hbase ["hls", k, "playlist.m3u8"]
        have hstats := pushSegments_segments hlist [k, "stats"]
        refine ⟨_, _, ?_, ?_, (hd.setScheme _).pushSegments hman,
          ((hd.setScheme _).appendPath _).pushSegments hstats, pushSegments_scheme hman,
          (pushSegments_scheme hstats).trans (appendPath_scheme _ _)⟩
        · rw [manifestUrl_eq_derive, hok, bind_withScheme hu hs]
          exact hman
        · rw [streamStatsUrl_eq_derive, hok, bind_withScheme hu hs]
          exact hstats
  · -- an endpoint without a scheme is read as HTTP, one reading for all five; each build
    -- succeeds once the security check passed
    refine ⟨?_, ?_, ?_, fun k => ⟨?_, ?_⟩⟩
    · rw [signalingUrl_eq_derive, signalingUrl_eq_derive]
      exact derive_schemeless h fun u secure hu hs => ⟨_, by rw [bind_withScheme hu hs]; rfl⟩
    · rw [httpBaseUrl_eq_derive, httpBaseUrl_eq_derive]
      exact derive_schemeless h fun u secure hu hs => ⟨_, withScheme_secured hu hs false⟩
    · rw [streamsUrl_eq_derive, streamsUrl_eq_derive]
      exact derive_schemeless h fun u secure hu hs => ⟨_, by rw [bind_withScheme hu hs]; rfl⟩
    · rw [manifestUrl_eq_derive, manifestUrl_eq_derive]
      exact derive_schemeless h fun u secure hu hs =>
        pushed_ok hu hs id (fun v segs hp => ⟨segs, hp⟩) _
    · rw [streamStatsUrl_eq_derive, streamStatsUrl_eq_derive]
      exact derive_schemeless h fun u secure hu hs =>
        pushed_ok hu hs (appendPath · streamsPath)
          (fun v segs hp => ⟨_, by rw [appendPath, hp]⟩) _

/-- A bare `host:port` endpoint is read as HTTP: its playlist URLs are those of the endpoint with
`http://` in front, and fail as those do, naming the endpoint as typed. -/
theorem bare_host_reads_as_http :
    ¬"://".toList <:+: (Text.trim "localhost:8080").toList ∧
      ∀ k, manifestUrl "localhost:8080" k =
        (manifestUrl ("http://" ++ Text.trim "localhost:8080") k).mapError
          (naming "localhost:8080") := by
  have htrim : Text.trim "localhost:8080" = "localhost:8080" := by decide
  -- the endpoint holds no slash, so no `://`
  have h : ¬"://".toList <:+: (Text.trim "localhost:8080").toList := by
    rw [htrim]
    intro hin
    exact (by decide : '/' ∉ "localhost:8080".toList) (hin.subset (by simp))
  exact ⟨h, fun k => (((derivations_agree "localhost:8080").2.1 h).2.2.2 k).1⟩

/-- Whether an endpoint names a scheme is told by `://` alone: a bare `host:port/path` whose path
holds `://` is read as it is, fails as a relative URL, and is not read as HTTP. -/
theorem bracketed_host_with_scheme_marker :
    signalingUrl "[::1]:8080/a://b" =
        .error (.invalid "[::1]:8080/a://b" "relative URL without a base") ∧
      signalingUrl ("http://" ++ Text.trim "[::1]:8080/a://b") = .ok
        { scheme := "ws", username := "", password := none,
          host := some (.ipv6 [0, 0, 0, 0, 0, 0, 0, 1]), port := some 8080,
          path := .segments ["a:", "", "b", "api", "webrtc", "ws"],
          query := none, fragment := none } :=
  ⟨by decide +kernel, by decide +kernel⟩

end Endpoint

end LiveViewer
