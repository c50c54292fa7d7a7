import LiveViewer.Endpoint
import LiveViewer.Proofs.Url.Percent
import LiveViewer.Proofs.Url.Segments

/-!
# A stream key becomes one segment of the stream's URLs

The playlist of a stream is the HTTP base URL of the endpoint with `hls`, the stream key and
`playlist.m3u8` pushed onto its path; its statistics are the stream list URL with the key and
`stats` pushed. A key is pushed as one percent-encoded segment when it is no dot segment, also
once its tabs and line breaks are skipped (`Plain`). Percent-decoding that segment gives back the
key less its tabs and line breaks (`decode_encodeSegment`), so two plain keys give the same URLs
exactly when they agree outside those characters (`encodeSegment_eq_iff`).

The dot segments `.` and `..` are not pushed at all: both give the playlist URL with no key
segment (`pushSegments_playlist_dot`).

Every HTTP base URL has a path of segments, since its scheme is special (`httpBaseUrl_path`).
Pushing onto it first drops one trailing empty segment and lets the first pushed segment take the
place of a bare root (`stem`). Main statement: `keyed_urls`.
-/

namespace LiveViewer

open Url

namespace Endpoint

/-- A segment that is no dot segment, also once its tabs and line breaks are skipped: pushing it
adds exactly one segment. -/
def Plain (seg : String) : Prop :=
  segmentChars seg ≠ ['.'] ∧ segmentChars seg ≠ ['.', '.']

instance : DecidablePred Plain := fun _ => inferInstanceAs (Decidable (_ ∧ _))

/-- The segments of a base path that pushed segments follow: one trailing empty segment goes,
when another stays before it. -/
def popEmpty (segs : List String) : List String :=
  if segs.length ≥ 2 && segs.getLast? = some "" then segs.dropLast else segs

/-- The segments of a base path that stay in front of pushed ones: a path left as the bare root
keeps none, since the first pushed segment takes the place of its empty segment. -/
def stem (segs : List String) : List String :=
  if popEmpty segs = [""] then [] else popEmpty segs

theorem pushSegments_segments {u : Url} {segs : List String} (hp : u.path = .segments segs)
    (more : List String) :
    pushSegments u more = .ok { u with path := .segments (more.foldl pushSegment (popEmpty segs)) } := by
  rw [pushSegments, hp]
  rfl

theorem plain_not_dot {seg : String} (h : Plain seg) : (seg = "." || seg = "..") = false := by
  have h1 : seg ≠ "." := by
    rintro rfl
    exact h.1 (by decide)
  have h2 : seg ≠ ".." := by
    rintro rfl
    exact h.2 (by decide)
  simp [h1, h2]

/-- A plain segment is added percent-encoded, in place of the empty segment of a bare root. -/
theorem pushSegment_of_plain {seg : String} (h : Plain seg) (segs : List String) :
    pushSegment segs seg = (if segs = [""] then [] else segs) ++ [encodeSegment seg] := by
  rw [pushSegment, if_neg (by simp [plain_not_dot h]), if_neg h.2, if_neg h.1]
  split <;> rfl

theorem pushSegment_of_ne_root {seg : String} (h : Plain seg) {segs : List String}
    (hr : segs ≠ [""]) : pushSegment segs seg = segs ++ [encodeSegment seg] := by
  rw [pushSegment_of_plain h, if_neg hr]

/-- The first segment pushed onto a base path follows its stem. -/
theorem pushSegment_popEmpty {seg : String} (h : Plain seg) (segs : List String) :
    pushSegment (popEmpty segs) seg = stem segs ++ [encodeSegment seg] :=
  pushSegment_of_plain h _

/-- The dot segments are not added at all. -/
theorem pushSegment_dot (segs : List String) :
    pushSegment segs "." = segs ∧ pushSegment segs ".." = segs := by
  constructor <;> simp [pushSegment]

/-- Percent-decoding a pushed segment gives back the segment, less its tabs and line breaks. -/
theorem decode_encodeSegment (k : String) :
    utf8Decode (decodeBytes (encodeSegment k).toList) = some (segmentChars k) := by
  rw [encodeSegment, String.toList_ofList]
  exact utf8Decode_decodeBytes_encode (by decide) _

/-- Two segments are pushed alike exactly when they agree outside their tabs and line breaks. -/
theorem encodeSegment_eq_iff {k₁ k₂ : String} :
    encodeSegment k₁ = encodeSegment k₂ ↔ segmentChars k₁ = segmentChars k₂ := by
  constructor
  · intro h
    -- the encoded segments decode to the characters read
    have hdec := decode_encodeSegment k₁
    rw [h, decode_encodeSegment k₂] at hdec
    exact (Option.some.inj hdec).symm
  · intro h
    rw [encodeSegment, encodeSegment, h]

theorem plain_hls : Plain "hls" := by decide

theorem plain_playlist : Plain "playlist.m3u8" := by decide

theorem plain_stats : Plain "stats" := by decide

theorem encodeSegment_hls : encodeSegment "hls" = "hls" := by decide

theorem encodeSegment_playlist : encodeSegment "playlist.m3u8" = "playlist.m3u8" := by decide

theorem encodeSegment_stats : encodeSegment "stats" = "stats" := by decide

/-- The playlist path: the stem of the base path, then `hls`, the key, `playlist.m3u8`. -/
theorem pushSegments_playlist {u : Url} {segs : List String} (hp : u.path = .segments segs)
    {k : String} (hk : Plain k) :
    pushSegments u ["hls", k, "playlist.m3u8"] =
      .ok { u with path := .segments (stem segs ++ ["hls", encodeSegment k, "playlist.m3u8"]) } := by
  rw [pushSegments_segments hp, List.foldl_cons, List.foldl_cons, List.foldl_cons, List.foldl_nil,
    pushSegment_popEmpty plain_hls, encodeSegment_hls]
  -- after `hls` the path is no bare root, so the key and the playlist name are appended
  have hr₁ : stem segs ++ ["hls"] ≠ [""] := by simp [List.append_eq_singleton_iff]
  have hr₂ : stem segs ++ ["hls"] ++ [encodeSegment k] ≠ [""] := by
    simp [List.append_eq_singleton_iff]
  rw [pushSegment_of_ne_root hk hr₁, pushSegment_of_ne_root plain_playlist hr₂,
    encodeSegment_playlist]
  simp

/-- The playlist path of a dot key: the stem of the base path, then `hls` and `playlist.m3u8`. -/
theorem pushSegments_playlist_dot {u : Url} {segs : List String} (hp : u.path = .segments segs)
    {d : String} (hd : d = "." ∨ d = "..") :
    pushSegments u ["hls", d, "playlist.m3u8"] =
      .ok { u with path := .segments (stem segs ++ ["hls", "playlist.m3u8"]) } := by
  have hskip : ∀ segs', pushSegment segs' d = segs' := by
    rcases hd with rfl | rfl <;> simp [pushSegment_dot]
  have hr : stem segs ++ ["hls"] ≠ [""] := by simp [List.append_eq_singleton_iff]
  rw [pushSegments_segments hp, List.foldl_cons, List.foldl_cons, List.foldl_cons, List.foldl_nil,
    pushSegment_popEmpty plain_hls, encodeSegment_hls, hskip,
    pushSegment_of_ne_root plain_playlist hr, encodeSegment_playlist]
  simp

/-- The statistics path: the base path without trailing empty segments, then `api`, `streams`,
the key, `stats`. -/
theorem pushSegments_stats {u : Url} {segs : List String} (hp : u.path = .segments segs)
    {k : String} (hk : Plain k) :
    pushSegments (appendPath u streamsPath) [k, "stats"] =
      .ok { u with path := .segments (dropTrailingEmpty segs ++
          ["api", "streams", encodeSegment k, "stats"]) } := by
  have hlist : (appendPath u streamsPath).path = .segments (dropTrailingEmpty segs ++ streamsPath) := by
    rw [appendPath, hp]
  -- the stream list path ends in `streams`, so nothing is popped and both segments are appended
  have hpop : popEmpty (dropTrailingEmpty segs ++ streamsPath) =
      dropTrailingEmpty segs ++ streamsPath := by
    simp [popEmpty, streamsPath]
  have hr₁ : dropTrailingEmpty segs ++ streamsPath ≠ [""] := by
    simp [streamsPath, List.append_eq_singleton_iff]
  have hr₂ : dropTrailingEmpty segs ++ streamsPath ++ [encodeSegment k] ≠ [""] := by
    simp [streamsPath, List.append_eq_singleton_iff]
  rw [pushSegments_segments hlist, hpop, List.foldl_cons, List.foldl_cons, List.foldl_nil,
    pushSegment_of_ne_root hk hr₁, pushSegment_of_ne_root plain_stats hr₂, encodeSegment_stats]
  simp [appendPath, hp, streamsPath]

/-- An endpoint whose scheme passes the security check has a special scheme. -/
theorem isSecure_special {u : Url} {secure : Bool} (h : isSecure u = .ok secure) :
    SchemeKind.of u.scheme = .special := by
  unfold isSecure at h
  split at h
  · next hs =>
    rcases (by simpa using hs : u.scheme = "http" ∨ u.scheme = "ws") with hs | hs <;>
      rw [hs] <;> decide
  · split at h
    · next hs =>
      rcases (by simpa using hs : u.scheme = "https" ∨ u.scheme = "wss") with hs | hs <;>
        rw [hs] <;> decide
    · cases h

/-- Reading an endpoint keeps the path shape of the URL read. -/
theorem parse_path {e : String} {u : Url} (h : Endpoint.parse e = .ok u) :
    (∃ segs, u.path = .segments segs) ∨ SchemeKind.of u.scheme = .other := by
  unfold Endpoint.parse at h
  extract_lets trimmed candidate at h
  split at h
  · next v hv =>
    cases h
    exact Url.parse_path (u := v) hv
  · cases h

/-- An endpoint whose scheme passes the security check has a host, and no port that is its
scheme's default. -/
theorem parse_secured {e : String} {u : Url} {secure : Bool} (h : Endpoint.parse e = .ok u)
    (hs : isSecure u = .ok secure) : u.host ≠ none ∧ u.port ≠ defaultPort u.scheme := by
  have hspecial := isSecure_special hs
  unfold Endpoint.parse at h
  extract_lets trimmed candidate at h
  split at h
  · next v hv =>
    cases h
    exact (Url.parse_shape hv).2 hspecial
  · cases h

/-- The scheme chosen for a URL that passed the security check has the default port of the
URL's own scheme: the secure choice keeps it. -/
theorem defaultPort_schemeFor {u : Url} {secure : Bool} (hs : isSecure u = .ok secure)
    (socket : Bool) : defaultPort (schemeFor secure socket) = defaultPort u.scheme := by
  unfold isSecure at hs
  split at hs
  · next hplain =>
    cases hs
    rcases (by simpa using hplain : u.scheme = "http" ∨ u.scheme = "ws") with h | h <;>
      rw [h] <;> cases socket <;> rfl
  · split at hs
    · next hsec =>
      cases hs
      rcases (by simpa using hsec : u.scheme = "https" ∨ u.scheme = "wss") with h | h <;>
        rw [h] <;> cases socket <;> rfl
    · cases hs

/-- An endpoint read that passed the security check takes the chosen scheme and keeps the rest:
it has a host, so the scheme is set, and its port is no default of the new scheme either. -/
theorem withScheme_secured {e : String} {u : Url} {secure : Bool}
    (h : Endpoint.parse e = .ok u) (hs : isSecure u = .ok secure) (socket : Bool) :
    withScheme u secure socket = .ok { u with scheme := schemeFor secure socket } := by
  obtain ⟨hhost, hport⟩ := parse_secured h hs
  have hkind : SchemeKind.of u.scheme ≠ .other := by
    rw [isSecure_special hs]
    nofun
  rw [withScheme, if_neg (not_or.2 ⟨hkind, hhost⟩), defaultPort_schemeFor hs, if_neg hport]

/-- The HTTP base URL is the endpoint read, under the HTTP scheme its security check chose. -/
theorem httpBaseUrl_ok {e : String} {b : Url} (h : httpBaseUrl e = .ok b) :
    ∃ u secure, Endpoint.parse e = .ok u ∧ isSecure u = .ok secure ∧
      b = { u with scheme := schemeFor secure false } := by
  unfold httpBaseUrl at h
  obtain ⟨u, hu, h⟩ := bind_eq_ok h
  obtain ⟨secure, hs, h⟩ := bind_eq_ok h
  rw [withScheme_secured hu hs] at h
  cases h
  exact ⟨u, secure, hu, hs, rfl⟩

/-- The HTTP base URL of an endpoint has a path of segments: its scheme is special. -/
theorem httpBaseUrl_path {e : String} {b : Url} (h : httpBaseUrl e = .ok b) :
    ∃ segs, b.path = .segments segs := by
  obtain ⟨u, secure, hu, hs, rfl⟩ := httpBaseUrl_ok h
  rcases parse_path hu with hp | hother
  · exact hp
  · rw [isSecure_special hs] at hother
    cases hother

theorem manifestUrl_of_httpBaseUrl {e : String} {b : Url} (h : httpBaseUrl e = .ok b)
    (k : String) : manifestUrl e k = pushSegments b ["hls", k, "playlist.m3u8"] := by
  rw [manifestUrl, h]
  rfl

theorem streamStatsUrl_of_httpBaseUrl {e : String} {b : Url} (h : httpBaseUrl e = .ok b)
    (k : String) :
    streamStatsUrl e k = pushSegments (appendPath b streamsPath) [k, "stats"] := by
  rw [streamStatsUrl, streamsUrl, h]
  rfl

/-- The URLs of a stream whose key `k` is no dot segment, from an endpoint whose HTTP base URL
`b` has the path `segs`. The playlist URL is `b` with the stem of `segs`, then `hls`, the encoded
key and `playlist.m3u8`; the statistics URL is `b` with `segs` less its trailing empty segments,
then `api`, `streams`, the encoded key and `stats`. The encoded key decodes to the key less its
tabs and line breaks, and exactly the plain keys that agree on the rest give the same URLs. The
dot keys are not added: `.` and `..` both give the playlist URL with no key. -/
theorem keyed_urls (e k : String) (hk : Plain k) :
    ∀ b, httpBaseUrl e = .ok b → ∃ segs, b.path = .segments segs ∧
      manifestUrl e k =
        .ok { b with path := .segments (stem segs ++ ["hls", encodeSegment k, "playlist.m3u8"]) } ∧
      streamStatsUrl e k = .ok { b with path := .segments (dropTrailingEmpty segs ++
        ["api", "streams", encodeSegment k, "stats"]) } ∧
      utf8Decode (decodeBytes (encodeSegment k).toList) = some (segmentChars k) ∧
      (∀ k', Plain k' →
        (manifestUrl e k' = manifestUrl e k ↔ segmentChars k' = segmentChars k) ∧
        (streamStatsUrl e k' = streamStatsUrl e k ↔ segmentChars k' = segmentChars k)) ∧
      manifestUrl e "." = .ok { b with path := .segments (stem segs ++ ["hls", "playlist.m3u8"]) } ∧
      manifestUrl e ".." = manifestUrl e "." := by
  intro b hb
  obtain ⟨segs, hp⟩ := httpBaseUrl_path hb
  -- every URL of a plain key is the base URL with its path rebuilt
  have hman : ∀ k', Plain k' → manifestUrl e k' =
      .ok { b with path := .segments (stem segs ++ ["hls", encodeSegment k', "playlist.m3u8"]) } :=
    fun k' hk' => by rw [manifestUrl_of_httpBaseUrl hb, pushSegments_playlist hp hk']
  have hstats : ∀ k', Plain k' → streamStatsUrl e k' = .ok { b with
      path := .segments (dropTrailingEmpty segs ++ ["api", "streams", encodeSegment k', "stats"]) } :=
    fun k' hk' => by rw [streamStatsUrl_of_httpBaseUrl hb, pushSegments_stats hp hk']
  -- the dot keys add nothing, so only `hls` and `playlist.m3u8` are pushed
  have hdot : ∀ d, (d = "." ∨ d = "..") → manifestUrl e d =
      .ok { b with path := .segments (stem segs ++ ["hls", "playlist.m3u8"]) } :=
    fun d hd => by rw [manifestUrl_of_httpBaseUrl hb, pushSegments_playlist_dot hp hd]
  refine ⟨segs, hp, hman k hk, hstats k hk, decode_encodeSegment k, fun k' hk' => ⟨?_, ?_⟩,
    hdot "." (.inl rfl), by rw [hdot "." (.inl rfl), hdot ".." (.inr rfl)]⟩
  -- the URLs differ in the key's segment only
  · rw [hman k hk, hman k' hk', ← encodeSegment_eq_iff]
    constructor
    · intro h
      simpa using congrArg Url.path (Except.ok.inj h)
    · intro h
      rw [h]
  · rw [hstats k hk, hstats k' hk', ← encodeSegment_eq_iff]
    constructor
    · intro h
      simpa using congrArg Url.path (Except.ok.inj h)
    · intro h
      rw [h]

/-- The endpoint `http://[::1]:8080/base/` has an HTTP base URL with the path `/base/`, and the
playlist of the key `arena` follows `base` in place of its trailing empty segment. -/
theorem arena_playlist :
    let base : Url :=
      { scheme := "http", username := "", password := none,
        host := some (.ipv6 [0, 0, 0, 0, 0, 0, 0, 1]), port := some 8080,
        path := .segments ["base", ""], query := none, fragment := none }
    httpBaseUrl "http://[::1]:8080/base/" = .ok base ∧ Plain "arena" ∧
      manifestUrl "http://[::1]:8080/base/" "arena" =
        .ok { base with path := .segments ["base", "hls", "arena", "playlist.m3u8"] } := by
  intro base
  have hb : httpBaseUrl "http://[::1]:8080/base/" = .ok base := eq_ok_of_toOption (by decide +kernel)
  have hk : Plain "arena" := by decide
  obtain ⟨segs, hp, hman, -⟩ := keyed_urls "http://[::1]:8080/base/" "arena" hk base hb
  -- the path read is `base` and one trailing empty segment
  have hsegs : segs = ["base", ""] := (UrlPath.segments.inj hp).symm
  subst hsegs
  refine ⟨hb, hk, ?_⟩
  rw [hman, show stem ["base", ""] = ["base"] by decide,
    show encodeSegment "arena" = "arena" by decide]
  rfl

end Endpoint

end LiveViewer
