import LiveViewer.Url.Parse
import LiveViewer.Proofs.Url.Percent
import LiveViewer.Proofs.Except

/-!
# What reading a URL builds

Reading a URL ends in one of a few places that build it: the authority reader and the `file`
reader always build a path of segments, and only a scheme that is neither special nor `file`
may give an opaque path (`parse_path`). No segment read holds a slash (`SlashFree`): a slash
ends the segment being read, and every other character is written as itself or as escapes,
which hold none (`readSegments_slashFree`). A URL of a special scheme also has a host, since an
empty host is refused, and a port only when it is not the scheme's default, which is dropped
(`Authored`, `parse_shape`).

The readers are `do` blocks whose continuations the elaborator shares as join points. The
proofs keep them shared: each join point is named with `extract_lets`, what every answer of it
satisfies is shown once, and the branches before it only route their answer into it
(`bind_eq_ok`). Unfolding the join points instead copies each continuation into every branch.
-/

namespace LiveViewer.Url

/-! ## Segments hold no slash -/

/-- Path segments as they are read: a slash only ever separates them, so none holds one. -/
def SlashFree (segs : List String) : Prop := ∀ s ∈ segs, '/' ∉ s.toList

@[simp] theorem slashFree_nil : SlashFree [] := by
  simp [SlashFree]

theorem SlashFree.dropLast {segs : List String} (h : SlashFree segs) : SlashFree segs.dropLast :=
  fun s hs => h s (List.dropLast_subset segs hs)

theorem SlashFree.append {segs more : List String} (h : SlashFree segs) (hm : SlashFree more) :
    SlashFree (segs ++ more) := by
  intro s hs
  rcases List.mem_append.1 hs with hs | hs
  · exact h s hs
  · exact hm s hs

theorem hexUpper_ne_slash : ∀ d < 16, hexUpper d ≠ '/' := by
  decide

/-- An escape is `%` and two hexadecimal digits, so no slash. -/
theorem slash_not_mem_percentByte {b : Nat} (hb : b < 256) : '/' ∉ percentByte b := by
  have hhi := hexUpper_ne_slash (b / 16) (by omega)
  have hlo := hexUpper_ne_slash (b % 16) (by omega)
  simp [percentByte, Ne.symm hhi, Ne.symm hlo]

/-- A character other than a slash is encoded without one. -/
theorem slash_not_mem_encodeChar {c : Char} (hc : c ≠ '/') (s : EncodeSet) :
    '/' ∉ encodeChar s c := by
  unfold encodeChar
  split
  · simpa using Ne.symm hc
  · simp only [List.mem_flatMap, not_exists, not_and]
    intro b hb
    exact slash_not_mem_percentByte (utf8Bytes_lt c b hb)

/-- Adding a segment without a slash keeps the path free of slashes. -/
theorem pushSegment_slashFree {path : List String} {seg : List Char} (h : SlashFree path)
    (hseg : '/' ∉ seg) (more : Bool) : SlashFree (pushSegment path seg more) := by
  have hend : SlashFree (if more then [] else [""]) := by
    split
    · exact slashFree_nil
    · simp [SlashFree]
  unfold pushSegment
  split
  · exact h.dropLast.append hend
  · split
    · exact h.append hend
    · exact h.append (by simpa [SlashFree] using hseg)

/-- The segments read from any text hold no slash, by induction on the text: a slash closes the
segment being read, and any other character adds no slash to it. -/
theorem readSegments_slashFree (special : Bool) (cs : List Char) {path : List String}
    {seg : List Char} (h : SlashFree path) (hseg : '/' ∉ seg) :
    SlashFree (readSegments special cs path seg).1 := by
  induction cs generalizing path seg with
  | nil => exact pushSegment_slashFree h hseg false
  | cons c rest ih =>
    unfold readSegments
    split
    · exact pushSegment_slashFree h hseg false
    · split
      · exact ih (pushSegment_slashFree h hseg true) (by simp)
      · next hc =>
        have hc' : c ≠ '/' := by
          rintro rfl
          simp at hc
        exact ih h (by simpa using ⟨hseg, slash_not_mem_encodeChar hc' .path⟩)

/-- A path read from the start holds no slash. -/
@[simp] theorem readSegments_nil_slashFree (special : Bool) (cs : List Char) :
    SlashFree (readSegments special cs [] []).1 :=
  readSegments_slashFree special cs slashFree_nil List.not_mem_nil

/-! ## What the readers build -/

/-- A host of a special URL is never the empty domain: an empty name is refused. -/
theorem Host.parseSpecial_ne_empty {cs : List Char} {host : Host}
    (h : Host.parseSpecial cs = .ok host) : host ≠ .domain "" := by
  unfold Host.parseSpecial at h
  simp only [bind, Except.bind, pure, Except.pure, throw, throwThe, MonadExceptOf.throw] at h
  repeat' split at h
  all_goals first | cases h; done | skip
  -- what is left are an IPv6 address, an IPv4 address and a name that is not empty
  all_goals cases h
  · nofun
  · nofun
  · intro he
    injection he with he
    simp_all

/-- What the authority reader builds for the scheme `scheme`: a URL of that scheme with a path of
segments none of which holds a slash, a host when the scheme is special, and no port that is the
scheme's default. -/
structure Authored (scheme : String) (special : Bool) (u : Url) : Prop where
  same_scheme : u.scheme = scheme
  path : ∃ segs, u.path = .segments segs ∧ SlashFree segs
  host : special = true → u.host ≠ none
  port : u.port = none ∨ u.port ≠ defaultPort scheme

/-- The authority reader builds what `Authored` says. -/
theorem readAuthority_authored {scheme : String} {special : Bool} {cs : List Char} {u : Url}
    (h : readAuthority scheme special cs = .ok u) : Authored scheme special u := by
  unfold readAuthority at h
  extract_lets isEnd region jp at h
  -- every answer leaves through the join points; the last one builds the URL
  have hjp : ∀ x, jp x = .ok u → Authored scheme special u := by
    rintro ⟨user, pass, after⟩ h
    simp -zeta only [jp] at h
    extract_lets hasAuthority hostChars rest jpHost jpStart at h
    clear_value hasAuthority hostChars rest
    have hHost : ∀ host, (special = true → host ≠ .domain "") → jpHost host = .ok u →
        Authored scheme special u := by
      intro host hne h
      simp only [jpHost, bind, Except.bind, pure, Except.pure, throw, throwThe,
        MonadExceptOf.throw] at h
      repeat' split at h
      all_goals (try (cases h; done))
      -- each path left is read from the start, or empty; the empty domain leaves no host
      all_goals (cases h; refine ⟨rfl, ⟨_, rfl, by simp⟩, fun hs => by simp_all, ?_⟩)
      -- a port that is the default is dropped
      all_goals (dsimp only; simp_all)
    have hStart : jpStart () = .ok u → Authored scheme special u := by
      intro h
      simp only [jpStart] at h
      split at h
      · obtain ⟨host, hp, h⟩ := bind_eq_ok h
        exact hHost host (fun _ => Host.parseSpecial_ne_empty hp) h
      · next hs =>
        obtain ⟨host, -, h⟩ := bind_eq_ok h
        exact hHost host (fun h' => absurd h' hs) h
    split at h
    · obtain ⟨_, -, h⟩ := bind_eq_ok h
      exact hStart h
    · exact hStart h
  clear_value isEnd region
  split at h
  · obtain ⟨x, -, h⟩ := bind_eq_ok h
    exact hjp x h
  · split at h
    · split at h <;> obtain ⟨x, -, h⟩ := bind_eq_ok h <;> exact hjp x h
    · obtain ⟨x, -, h⟩ := bind_eq_ok h
      exact hjp x h
  · obtain ⟨x, -, h⟩ := bind_eq_ok h
    exact hjp x h

/-- The `file` reader builds a `file` URL with a path of segments, none of which holds a slash. -/
theorem readFile_segments {cs : List Char} {u : Url} (h : readFile cs = .ok u) :
    u.scheme = "file" ∧ ∃ segs, u.path = .segments segs ∧ SlashFree segs := by
  unfold readFile at h
  extract_lets slash isEnd jp at h
  -- a URL with a host is built by the join point, one without by `fileWithoutHost`
  have hjp : ∀ x, jp x = .ok u → u.scheme = "file" ∧ ∃ segs, u.path = .segments segs ∧ SlashFree segs := by
    rintro ⟨host, pathChars⟩ h
    cases h
    exact ⟨rfl, _, rfl, by simp⟩
  clear_value slash isEnd jp
  split at h
  · split at h
    · extract_lets hostChars after at h
      clear_value hostChars after
      split at h
      · obtain ⟨x, -, h⟩ := bind_eq_ok h
        exact hjp x h
      · obtain ⟨host, -, h⟩ := bind_eq_ok h
        obtain ⟨x, -, h⟩ := bind_eq_ok h
        exact hjp x h
    · cases h
      exact ⟨rfl, _, rfl, by simp⟩
  · cases h
    exact ⟨rfl, _, rfl, by simp⟩

/-- A special scheme has a default port. -/
theorem SchemeKind.defaultPort_of_special {scheme : String}
    (h : SchemeKind.of scheme = .special) : defaultPort scheme ≠ none := by
  unfold SchemeKind.of at h
  split at h
  · cases h
  · split at h
    · next hd => exact Option.isSome_iff_ne_none.1 hd
    · cases h

/-- A URL read from text has a path of segments free of slashes unless its scheme is neither
special nor `file`; a URL of a special scheme has a host and no port that is the scheme's
default. -/
theorem parse_shape {t : String} {u : Url} (h : parse t = .ok u) :
    ((∃ segs, u.path = .segments segs ∧ SlashFree segs) ∨ SchemeKind.of u.scheme = .other) ∧
      (SchemeKind.of u.scheme = .special → u.host ≠ none ∧ u.port ≠ defaultPort u.scheme) := by
  unfold parse at h
  extract_lets cs schemeChars scheme jpRest jp at h
  -- the special and file schemes read a segmented path; an opaque path needs another scheme
  have hRest : ∀ rest, jpRest rest = .ok u →
      ((∃ segs, u.path = .segments segs ∧ SlashFree segs) ∨ SchemeKind.of u.scheme = .other) ∧
        (SchemeKind.of u.scheme = .special → u.host ≠ none ∧ u.port ≠ defaultPort u.scheme) := by
    intro rest h
    simp only [jpRest] at h
    clear_value scheme
    split at h
    · next hkind =>
      have ha := readAuthority_authored h
      refine ⟨.inl ha.path, fun _ => ⟨ha.host rfl, ?_⟩⟩
      rw [ha.same_scheme]
      -- no port at all differs from the default a special scheme has
      rcases ha.port with hp | hp
      · rw [hp]
        exact (SchemeKind.defaultPort_of_special hkind).symm
      · exact ha.same_scheme ▸ hp
    · obtain ⟨hs, hp⟩ := readFile_segments h
      exact ⟨.inl hp, fun hk => by rw [hs] at hk; cases hk⟩
    · next hkind =>
      split at h
      · have ha := readAuthority_authored h
        refine ⟨.inl ha.path, fun hk => ?_⟩
        rw [ha.same_scheme, hkind] at hk
        cases hk
      · cases h
        exact ⟨.inl ⟨_, rfl, by simp⟩, fun hk => by rw [hkind] at hk; cases hk⟩
      · cases h
        exact ⟨.inr hkind, fun hk => by rw [hkind] at hk; cases hk⟩
  have hjp : jp () = .ok u →
      ((∃ segs, u.path = .segments segs ∧ SlashFree segs) ∨ SchemeKind.of u.scheme = .other) ∧
        (SchemeKind.of u.scheme = .special → u.host ≠ none ∧ u.port ≠ defaultPort u.scheme) := by
    intro h
    simp only [jp] at h
    clear_value schemeChars cs
    split at h <;> obtain ⟨rest, -, h⟩ := bind_eq_ok h <;> exact hRest rest h
  clear_value cs jp
  split at h
  · split at h
    · obtain ⟨_, -, h⟩ := bind_eq_ok h
      exact hjp h
    · exact hjp h
  · obtain ⟨_, -, h⟩ := bind_eq_ok h
    exact hjp h

/-- A URL read from text has a path of segments free of slashes unless its scheme is neither
special nor `file`. -/
theorem parse_segments {t : String} {u : Url} (h : parse t = .ok u) :
    (∃ segs, u.path = .segments segs ∧ SlashFree segs) ∨ SchemeKind.of u.scheme = .other :=
  (parse_shape h).1

/-- A URL read from text has a path of segments unless its scheme is neither special nor
`file`. -/
theorem parse_path {t : String} {u : Url} (h : parse t = .ok u) :
    (∃ segs, u.path = .segments segs) ∨ SchemeKind.of u.scheme = .other := by
  rcases parse_segments h with ⟨segs, hp, -⟩ | hother
  · exact .inl ⟨segs, hp⟩
  · exact .inr hother

end LiveViewer.Url
