import LiveViewer.Playlist.Parse
import LiveViewer.Proofs.Except

/-!
# What a media playlist reads as

A media playlist is read line by line (`Reading.run`): a tag line takes in its tag, a comment
changes nothing, any other line is the URI of a segment, and a variant stream tag on the last line
is dropped. `LineStep` says what one line does and `Reading.run_cons` splits a run into its first
step and the rest; the run lemmas follow by induction on the lines. The segments are the URI lines
in order, each with the duration of the last duration tag since the URI line before it
(`uriDurations`); the list has ended exactly when one line is `#EXT-X-ENDLIST`; the media sequence
is the number of the last media sequence tag, which fits 64 bits, and the target duration that
of the last target duration tag. A tag's value is read off the line (`tagValue`): a line that
starts with a tag's name, and with no name tried before it, is read by that tag's reader
(`Tag.read_of_first`).

The segments are numbered from the media sequence on in 64-bit arithmetic. The numbers rise at
every segment exactly when the last of them does not pass `2^64 - 1` (`numbering_pairwise_iff`);
after it they wrap around to zero. `reads_numbered_segments` gathers all of this for every text
that reads as a media playlist, with what the segment engine makes of a text refused.
-/

namespace LiveViewer.Decimal

/-- The digit reader stays within its range: a value it gives is one it checked, or the one it
started from; by induction on the digits. -/
theorem readDigits_range {negative : Bool} {lo hi acc v : Int} {cs : List Char}
    (hacc : lo ≤ acc ∧ acc ≤ hi) (h : readDigits negative lo hi acc cs = .ok v) :
    lo ≤ v ∧ v ≤ hi := by
  induction cs generalizing acc with
  | nil =>
    cases h
    exact hacc
  | cons c cs ih =>
    simp only [readDigits] at h
    split at h
    · cases h
    · next d _ =>
      -- the value after this digit, whichever way the sign makes it
      generalize (if negative then acc * 10 - d else acc * 10 + d) = a at h
      split at h
      · cases h
      · split at h
        · cases h
        · exact ih ⟨by omega, by omega⟩ h

/-- A number read within a range that holds zero lies in it. -/
theorem readInRange_range {lo hi v : Int} {s : String} (hlo : lo ≤ 0) (hhi : 0 ≤ hi)
    (h : readInRange lo hi s = .ok v) : lo ≤ v ∧ v ≤ hi := by
  unfold readInRange at h
  split at h
  · cases h
  · cases h
  · cases h
  · exact readDigits_range ⟨hlo, hhi⟩ h
  · -- a minus sign only where the range goes below zero
    split at h
    · exact readDigits_range ⟨hlo, hhi⟩ h
    · cases h
  · exact readDigits_range ⟨hlo, hhi⟩ h

/-- An unsigned number of 64 bits is below `2^64`. -/
theorem readUnsigned_lt {n : Nat} {s : String} (h : readUnsigned 64 s = .ok n) :
    n < UInt64.size := by
  unfold readUnsigned at h
  cases hr : readInRange 0 (Int.pow 2 64 - 1) s with
  | error e =>
    rw [hr] at h
    cases h
  | ok v =>
    rw [hr] at h
    simp only [Except.map, Except.ok.injEq] at h
    have hv := readInRange_range (by decide) (by decide) hr
    have hpow : Int.pow 2 64 - 1 = (UInt64.size : Int) - 1 := by decide
    omega

end LiveViewer.Decimal

namespace LiveViewer.Playlist

/-- A line that starts with a longer prefix starts with each prefix of it. -/
theorem startsWith_of_startsWith {l p q : String} (h : l.startsWith p = true)
    (hq : q.toList <+: p.toList) : l.startsWith q = true :=
  String.startsWith_string_iff.2 (hq.trans (String.startsWith_string_iff.1 h))

/-- A line that does not start with a prefix of a name does not start with the name. -/
theorem startsWith_false_of_shorter {l p q : String} (h : l.startsWith q = false)
    (hq : q.toList <+: p.toList) : l.startsWith p = false := by
  rw [Bool.eq_false_iff] at h ⊢
  exact fun hp => h (startsWith_of_startsWith hp hq)

/-- A line that starts with `p` does not start with a name that neither is a prefix of `p` nor
has `p` as a prefix. -/
theorem startsWith_eq_false {l p q : String} (h : l.startsWith p = true)
    (hqp : ¬q.toList <+: p.toList) (hpq : ¬p.toList <+: q.toList) : l.startsWith q = false := by
  rw [Bool.eq_false_iff]
  intro hq
  rcases List.prefix_or_prefix_of_prefix (String.startsWith_string_iff.1 hq)
    (String.startsWith_string_iff.1 h) with h' | h'
  · exact hqp h'
  · exact hpq h'

/-- What reading one line does to a reading: a tag line takes in its tag, a comment changes
nothing, and any other line is the URI of a segment. -/
inductive LineStep : Reading → String → Reading → Prop
  | tag {r r' : Reading} {l : String} {t : Tag} (hs : l.startsWith streamPrefix = false)
      (he : l.startsWith "#EXT" = true) (ht : Tag.read l = .ok t) (hr : r.tag t = .ok r') :
      LineStep r l r'
  | comment {r : Reading} {l : String} (hc : l.startsWith "#" = true)
      (he : l.startsWith "#EXT" = false) : LineStep r l r
  | uri {r r' : Reading} {l : String} (hc : l.startsWith "#" = false) (hr : r.uri l = .ok r') :
      LineStep r l r'

/-- A run over lines either ends at a variant stream tag with nothing after it, which is
dropped, or takes its first line as one step. -/
theorem Reading.run_cons {r r' : Reading} {l : String} {rest : List String}
    (h : r.run (l :: rest) = .ok r') :
    (l.startsWith streamPrefix = true ∧ rest = [] ∧ r' = r) ∨
      ∃ r₁, LineStep r l r₁ ∧ r₁.run rest = .ok r' := by
  unfold Reading.run at h
  split at h
  · next hs =>
    cases rest with
    | nil =>
      cases h
      exact .inl ⟨hs, rfl, rfl⟩
    | cons u more =>
      -- the line after it is its URI, and a master tag is refused
      simp only [bind, Except.bind] at h
      split at h
      · cases h
      · simp [Reading.tag] at h
  · next hs =>
    split at h
    · next he =>
      simp only [bind, Except.bind] at h
      split at h
      · cases h
      · next t ht =>
        split at h
        · cases h
        · next r₁ hr =>
          exact .inr ⟨r₁, .tag (by simpa using hs) he ht hr, h⟩
    · next he =>
      split at h
      · next hc => exact .inr ⟨r, .comment hc (by simpa using he), h⟩
      · next hc =>
        simp only [bind, Except.bind] at h
        split at h
        · cases h
        · next r₁ hr => exact .inr ⟨r₁, .uri (by simpa using hc) hr, h⟩

/-- Taking in a tag adds no segment, only the end marker ends the list, and only a media
sequence, a target duration and a segment duration set what they name. -/
theorem Reading.tag_ok {r r' : Reading} {t : Tag} (h : r.tag t = .ok r') :
    r'.entries = r.entries ∧ (r'.ended = true ↔ r.ended = true ∨ t = .endList) ∧
      ((∀ n, t ≠ .mediaSequence n) → r'.mediaSequence = r.mediaSequence) ∧
      ((∀ s, t ≠ .targetDuration s) → r'.target = r.target) ∧
      ((∀ ns, t ≠ .duration ns) → r'.draft.durationNs = r.draft.durationNs) := by
  cases t <;> simp [Reading.tag, Reading.mark] at h
  case discontinuitySequence =>
    -- refused after a segment or a discontinuity, and taking in nothing otherwise
    split at h
    · split at h
      · cases h
      · cases h
        simp
    · cases h
  all_goals (subst h; simp)

/-- Taking in a URI adds the segment with that URI and the duration pending, which it clears, and
ends nothing and sets no media sequence or target duration. -/
theorem Reading.uri_ok {r r' : Reading} {l : String} (h : r.uri l = .ok r') :
    r'.entries.map (·.uri) = r.entries.map (·.uri) ++ [l] ∧ r'.ended = r.ended ∧
      r'.mediaSequence = r.mediaSequence ∧ r'.target = r.target ∧
      r'.entries.map (some ·.durationNs) = r.entries.map (some ·.durationNs) ++
        [r.draft.durationNs] ∧ r'.draft.durationNs = none := by
  unfold Reading.uri at h
  split at h
  · cases h
  · next d hd =>
    cases h
    simp [hd]

/-- The name of the media sequence tag. -/
def sequencePrefix : String := "#EXT-X-MEDIA-SEQUENCE:"

/-- The name of the target duration tag. -/
def targetPrefix : String := "#EXT-X-TARGETDURATION:"

/-- The name of the segment duration tag. -/
def durationPrefix : String := "#EXTINF:"

/-- The value a line gives the tag `name`: what `read` makes of the text after the name, when the
line starts with it. -/
def tagValue (read : String → Option Nat) (name l : String) : Option Nat :=
  if l.startsWith name then read (String.ofList (l.toList.drop name.length)) else none

/-- The number a line gives the numeric tag `name`: a 64-bit number. -/
def numberLine (name : String) : String → Option Nat :=
  tagValue (fun s => (Decimal.readUnsigned 64 s).toOption) name

/-- The duration a line gives the next segment, in nanoseconds. -/
def durationLine : String → Option Nat :=
  tagValue (fun s => (readSegmentDuration s).toOption) durationPrefix

/-- A number reads as a tag's value exactly when it reads as a number. -/
theorem readNumber_eq_ok {bits n : Nat} {value shown : String} :
    readNumber bits value shown = .ok n ↔ Decimal.readUnsigned bits value = .ok n := by
  unfold readNumber
  cases Decimal.readUnsigned bits value with
  | error e => exact ⟨nofun, nofun⟩
  | ok m => exact ⟨fun h => by cases h; rfl, fun h => by cases h; rfl⟩

/-- A line read as a known tag was read by the reader of a name it starts with. -/
theorem Tag.read_named {l : String} {t : Tag} (h : Tag.read l = .ok t) (ht : t ≠ .unknown) :
    ∃ name reader, (name, reader) ∈ tagReaders ∧ l.startsWith name = true ∧
      reader l (String.ofList (l.toList.drop name.length)) = .ok t := by
  unfold Tag.read at h
  split at h
  · next name reader hfind =>
    have hpre := List.find?_some hfind
    exact ⟨name, reader, List.mem_of_find?_eq_some hfind, hpre, h⟩
  · cases h
    exact absurd rfl ht

/-- A line that starts with the name of the `k`-th reader, and with no name before it, is read by
that reader: the names before it neither begin nor continue its name. -/
theorem Tag.read_of_first (k : Nat) {l name : String} {reader : TagReader}
    (hk : tagReaders[k]? = some (name, reader))
    (hb : ∀ q ∈ tagReaders.take k,
      ¬q.1.toList <+: name.toList ∧ ¬name.toList <+: q.1.toList)
    (h : l.startsWith name = true) :
    Tag.read l = reader l (String.ofList (l.toList.drop name.length)) := by
  have hnone : (tagReaders.take k).find? (l.startsWith ·.1) = none :=
    List.find?_eq_none.2 fun q hq => by simp [startsWith_eq_false h (hb q hq).1 (hb q hq).2]
  obtain ⟨hlt, hget⟩ := List.getElem?_eq_some_iff.1 hk
  have hsplit : tagReaders = tagReaders.take k ++ (name, reader) :: tagReaders.drop (k + 1) := by
    rw [← hget, ← List.drop_eq_getElem_cons hlt, List.take_append_drop]
  unfold Tag.read
  rw [hsplit, List.find?_append, hnone, Option.none_or]
  simp only [List.find?_cons, h]

/-- Only the reader of `#EXT-X-ENDLIST` gives the end marker, with nothing after the name, and
only the readers of the media sequence, the target duration and the segment duration give them. -/
theorem tagReaders_result {name l rest : String} {reader : TagReader} {t : Tag}
    (hmem : (name, reader) ∈ tagReaders) (h : reader l rest = .ok t) :
    (t = .endList → name = "#EXT-X-ENDLIST" ∧ rest.isEmpty = true) ∧
      (∀ n, t = .mediaSequence n → name = sequencePrefix) ∧
      (∀ s, t = .targetDuration s → name = targetPrefix) ∧
      (∀ ns, t = .duration ns → name = durationPrefix) := by
  simp only [tagReaders, List.mem_cons, Prod.mk.injEq, List.not_mem_nil, or_false] at hmem
  rcases hmem with ⟨rfl, rfl⟩ | ⟨rfl, rfl⟩ | ⟨rfl, rfl⟩ | ⟨rfl, rfl⟩ | ⟨rfl, rfl⟩ | ⟨rfl, rfl⟩ |
    ⟨rfl, rfl⟩ | ⟨rfl, rfl⟩ | ⟨rfl, rfl⟩ | ⟨rfl, rfl⟩ | ⟨rfl, rfl⟩ | ⟨rfl, rfl⟩ | ⟨rfl, rfl⟩ |
    ⟨rfl, rfl⟩ | ⟨rfl, rfl⟩ | ⟨rfl, rfl⟩ | ⟨rfl, rfl⟩ | ⟨rfl, rfl⟩ | ⟨rfl, rfl⟩ | ⟨rfl, rfl⟩ |
    ⟨rfl, rfl⟩
  all_goals simp only [Functor.map, Except.map, readVersion, readPlaylistType, bare] at h
  -- every reader gives a tag of its own kind, or fails
  all_goals repeat' split at h
  all_goals cases h
  all_goals simp_all [sequencePrefix, targetPrefix, durationPrefix]

/-- A line read as a known tag that only the reader of `name` gives starts with `name`. -/
theorem Tag.startsWith_of_read {l name : String} {t : Tag} (h : Tag.read l = .ok t)
    (ht : t ≠ .unknown)
    (hname : ∀ name' reader rest, (name', reader) ∈ tagReaders → reader l rest = .ok t →
      name' = name) :
    l.startsWith name = true := by
  obtain ⟨name', reader, hmem, hpre, hr⟩ := Tag.read_named h ht
  rwa [← hname name' reader _ hmem hr]

/-- Only the line `#EXT-X-ENDLIST` itself reads as the end marker. -/
theorem Tag.read_endList {l : String} (h : Tag.read l = .ok .endList) : l = "#EXT-X-ENDLIST" := by
  obtain ⟨name, reader, hmem, hpre, hr⟩ := Tag.read_named h nofun
  obtain ⟨rfl, hempty⟩ := (tagReaders_result hmem hr).1 rfl
  -- the line is the name with nothing after it
  obtain ⟨t, hl⟩ := String.startsWith_string_iff.1 hpre
  have hdrop : l.toList.drop "#EXT-X-ENDLIST".length = t := by
    rw [← hl, ← String.length_toList, List.drop_left]
  have ht : t = [] := by simpa [hdrop] using hempty
  apply String.ext
  rw [← hl, ht, List.append_nil]

/-- The line `#EXT-X-ENDLIST` reads as the end marker. -/
theorem Tag.read_endList_line : Tag.read "#EXT-X-ENDLIST" = .ok .endList :=
  eq_ok_of_toOption (by decide +kernel)

section TagValue

variable {read : String → Option Nat} {name l : String} {mk : Nat → Tag} {t : Tag} {n : Nat}

/-- A line that reads as a tag gives the tag `name` a value exactly when it reads as the tag `mk`
of that value, when a line that starts with `name` reads as `mk` of what `read` makes of the rest
and only such a line reads as `mk`. -/
theorem tagValue_eq_some_iff
    (hfirst : ∀ l t, l.startsWith name = true → Tag.read l = .ok t →
      ∃ n, t = mk n ∧ read (String.ofList (l.toList.drop name.length)) = some n)
    (hnamed : ∀ l n, Tag.read l = .ok (mk n) → l.startsWith name = true)
    (hinj : Function.Injective mk) (h : Tag.read l = .ok t) :
    tagValue read name l = some n ↔ t = mk n := by
  unfold tagValue
  split
  · next hs =>
    obtain ⟨n₀, rfl, hn₀⟩ := hfirst l t hs h
    rw [hn₀]
    exact ⟨fun e => congrArg mk (Option.some.inj e), fun e => congrArg some (hinj e)⟩
  · next hs =>
    exact ⟨nofun, fun e => absurd (hnamed l n (e ▸ h)) hs⟩

/-- A line that is no tag gives a tag no value. -/
theorem tagValue_of_untagged (hn : "#EXT".toList <+: name.toList)
    (he : l.startsWith "#EXT" = false) : tagValue read name l = none := by
  simp [tagValue, startsWith_false_of_shorter he hn]

/-- A line that starts with another tag's name gives a tag no value. -/
theorem tagValue_of_other {p : String} (h : l.startsWith p = true)
    (hnp : ¬name.toList <+: p.toList) (hpn : ¬p.toList <+: name.toList) :
    tagValue read name l = none := by
  simp [tagValue, startsWith_eq_false h hnp hpn]

end TagValue

/-- A line that starts with the name of the media sequence tag is read by that tag. -/
theorem Tag.read_sequenceLine {l : String} {t : Tag} (h : l.startsWith sequencePrefix = true)
    (ht : Tag.read l = .ok t) : ∃ n, t = .mediaSequence n ∧
      (Decimal.readUnsigned 64 (String.ofList (l.toList.drop sequencePrefix.length))).toOption =
        some n := by
  unfold sequencePrefix at h ⊢
  rw [Tag.read_of_first 10 rfl (by decide +kernel) h] at ht
  obtain ⟨n, hn, rfl⟩ := map_eq_ok.1 ht
  exact ⟨n, rfl, by rw [readNumber_eq_ok.1 hn]; rfl⟩

/-- A line that starts with the name of the target duration tag is read by that tag. -/
theorem Tag.read_targetLine {l : String} {t : Tag} (h : l.startsWith targetPrefix = true)
    (ht : Tag.read l = .ok t) : ∃ s, t = .targetDuration s ∧
      (Decimal.readUnsigned 64 (String.ofList (l.toList.drop targetPrefix.length))).toOption =
        some s := by
  unfold targetPrefix at h ⊢
  rw [Tag.read_of_first 8 rfl (by decide +kernel) h] at ht
  obtain ⟨s, hs, rfl⟩ := map_eq_ok.1 ht
  exact ⟨s, rfl, by rw [readNumber_eq_ok.1 hs]; rfl⟩

/-- A line that starts with the name of the segment duration tag is read by that tag. -/
theorem Tag.read_durationLine {l : String} {t : Tag} (h : l.startsWith durationPrefix = true)
    (ht : Tag.read l = .ok t) : ∃ ns, t = .duration ns ∧
      (readSegmentDuration (String.ofList (l.toList.drop durationPrefix.length))).toOption =
        some ns := by
  unfold durationPrefix at h ⊢
  rw [Tag.read_of_first 1 rfl (by decide +kernel) h] at ht
  obtain ⟨ns, hns, rfl⟩ := map_eq_ok.1 ht
  exact ⟨ns, rfl, by rw [hns]; rfl⟩

/-- A line that reads as a tag gives the media sequence tag a number exactly when it reads as a
media sequence of that number. -/
theorem numberLine_sequence_iff {l : String} {t : Tag} {n : Nat} (h : Tag.read l = .ok t) :
    numberLine sequencePrefix l = some n ↔ t = .mediaSequence n :=
  tagValue_eq_some_iff (fun _ _ => Tag.read_sequenceLine)
    (fun _ n h => Tag.startsWith_of_read h nofun fun _ _ _ hmem hr =>
      (tagReaders_result hmem hr).2.1 n rfl)
    (fun _ _ => Tag.mediaSequence.inj) h

/-- A line that reads as a tag gives the target duration tag a number exactly when it reads as a
target duration of that number. -/
theorem numberLine_target_iff {l : String} {t : Tag} {s : Nat} (h : Tag.read l = .ok t) :
    numberLine targetPrefix l = some s ↔ t = .targetDuration s :=
  tagValue_eq_some_iff (fun _ _ => Tag.read_targetLine)
    (fun _ s h => Tag.startsWith_of_read h nofun fun _ _ _ hmem hr =>
      (tagReaders_result hmem hr).2.2.1 s rfl)
    (fun _ _ => Tag.targetDuration.inj) h

/-- A line that reads as a tag gives the next segment a duration exactly when it reads as a
segment duration of that many nanoseconds. -/
theorem durationLine_iff {l : String} {t : Tag} {ns : Nat} (h : Tag.read l = .ok t) :
    durationLine l = some ns ↔ t = .duration ns :=
  tagValue_eq_some_iff (fun _ _ => Tag.read_durationLine)
    (fun _ ns h => Tag.startsWith_of_read h nofun fun _ _ _ hmem hr =>
      (tagReaders_result hmem hr).2.2.2 ns rfl)
    (fun _ _ => Tag.duration.inj) h

/-- A number a line gives a numeric tag fits 64 bits. -/
theorem numberLine_lt {name l : String} {n : Nat} (h : numberLine name l = some n) :
    n < UInt64.size := by
  unfold numberLine tagValue at h
  split at h
  · cases hr : Decimal.readUnsigned 64 (String.ofList (l.toList.drop name.length)) with
    | error e => simp [hr, Except.toOption] at h
    | ok m =>
      simp only [hr, Except.toOption, Option.some.injEq] at h
      exact h ▸ Decimal.readUnsigned_lt hr
  · cases h

/-- A line that starts with `#` is no URI. -/
def isUriLine (l : String) : Bool := !l.startsWith "#"

/-- A tag line is no URI. -/
theorem isUriLine_of_tag {l : String} (he : l.startsWith "#EXT" = true) : isUriLine l = false := by
  simp [isUriLine, startsWith_of_startsWith he (by decide : "#".toList <+: "#EXT".toList)]

/-- A URI line is no tag. -/
theorem untagged_of_uri {l : String} (hc : l.startsWith "#" = false) :
    l.startsWith "#EXT" = false :=
  startsWith_false_of_shorter hc (by decide)

/-- A line that is no tag is not the end marker. -/
theorem ne_endList_of_untagged {l : String} (he : l.startsWith "#EXT" = false) :
    l ≠ "#EXT-X-ENDLIST" := by
  rintro rfl
  exact absurd he (by decide +kernel)

/-- One line adds a segment exactly when it is a URI line, that line being its URI. -/
theorem LineStep.uris {r r₁ : Reading} {l : String} (h : LineStep r l r₁) :
    r₁.entries.map (·.uri) = r.entries.map (·.uri) ++ (if isUriLine l then [l] else []) := by
  cases h with
  | tag hs he ht hr => simp [(Reading.tag_ok hr).1, isUriLine_of_tag he]
  | comment hc he => simp [isUriLine, hc]
  | uri hc hr => simp [isUriLine, hc, (Reading.uri_ok hr).1]

/-- One line ends the list exactly when it is `#EXT-X-ENDLIST`. -/
theorem LineStep.ended {r r₁ : Reading} {l : String} (h : LineStep r l r₁) :
    (r₁.ended = true ↔ r.ended = true ∨ l = "#EXT-X-ENDLIST") := by
  cases h with
  | @tag _ _ t hs he ht hr =>
    rw [(Reading.tag_ok hr).2.1]
    -- the tag read is the end marker exactly for that line
    have hiff : t = .endList ↔ l = "#EXT-X-ENDLIST" := by
      constructor
      · rintro rfl
        exact Tag.read_endList ht
      · rintro rfl
        rw [Tag.read_endList_line] at ht
        exact (Except.ok.inj ht).symm
    rw [hiff]
  | comment hc he => simp [ne_endList_of_untagged he]
  | uri hc hr => simp [ne_endList_of_untagged (untagged_of_uri hc), (Reading.uri_ok hr).2.1]

/-- One line sets the media sequence exactly when it is a media sequence tag, to its number. -/
theorem LineStep.mediaSequence {r r₁ : Reading} {l : String} (h : LineStep r l r₁) :
    r₁.mediaSequence = (numberLine sequencePrefix l).getD r.mediaSequence := by
  cases h with
  | @tag _ _ t hs he ht hr =>
    cases hv : numberLine sequencePrefix l with
    | some n =>
      obtain rfl := (numberLine_sequence_iff ht).1 hv
      simp only [Reading.tag, Except.ok.injEq] at hr
      rw [← hr]
      rfl
    | none =>
      exact (Reading.tag_ok hr).2.2.1 fun n hn => by simp [(numberLine_sequence_iff ht).2 hn] at hv
  | comment hc he =>
    rw [numberLine, tagValue_of_untagged (by decide) he]
    rfl
  | uri hc hr =>
    rw [numberLine, tagValue_of_untagged (by decide) (untagged_of_uri hc), Option.getD_none]
    exact (Reading.uri_ok hr).2.2.1

/-- One line sets the target duration exactly when it is a target duration tag, to its number of
seconds in nanoseconds. -/
theorem LineStep.target {r r₁ : Reading} {l : String} (h : LineStep r l r₁) :
    r₁.target = ((numberLine targetPrefix l).map (· * nanosPerSecond)).or r.target := by
  cases h with
  | @tag _ _ t hs he ht hr =>
    cases hv : numberLine targetPrefix l with
    | some s =>
      obtain rfl := (numberLine_target_iff ht).1 hv
      simp only [Reading.tag, Except.ok.injEq] at hr
      rw [← hr]
      rfl
    | none =>
      exact (Reading.tag_ok hr).2.2.2.1 fun s hs => by simp [(numberLine_target_iff ht).2 hs] at hv
  | comment hc he =>
    rw [numberLine, tagValue_of_untagged (by decide) he]
    rfl
  | uri hc hr =>
    rw [numberLine, tagValue_of_untagged (by decide) (untagged_of_uri hc)]
    exact (Reading.uri_ok hr).2.2.2.1

/-- The durations the lines give their segments: each URI line takes the duration of the last
duration tag since the URI line before it, the first one the duration pending before the lines. -/
def uriDurations : Option Nat → List String → List (Option Nat)
  | _, [] => []
  | d, l :: rest =>
    if isUriLine l then d :: uriDurations none rest else uriDurations ((durationLine l).or d) rest

/-- One line keeps the durations the segments get: a URI line takes the pending duration into its
segment, a duration tag replaces the pending duration, and any other line leaves both. -/
theorem LineStep.durations {r r₁ : Reading} {l : String} (h : LineStep r l r₁)
    (rest : List String) :
    r₁.entries.map (some ·.durationNs) ++ uriDurations r₁.draft.durationNs rest =
      r.entries.map (some ·.durationNs) ++ uriDurations r.draft.durationNs (l :: rest) := by
  cases h with
  | @tag _ _ t hs he ht hr =>
    have hd : r₁.draft.durationNs = (durationLine l).or r.draft.durationNs := by
      cases hv : durationLine l with
      | some ns =>
        obtain rfl := (durationLine_iff ht).1 hv
        simp only [Reading.tag, Except.ok.injEq] at hr
        rw [← hr]
        rfl
      | none =>
        exact (Reading.tag_ok hr).2.2.2.2 fun ns hns => by simp [(durationLine_iff ht).2 hns] at hv
    rw [(Reading.tag_ok hr).1, hd, uriDurations, isUriLine_of_tag he, if_neg Bool.false_ne_true]
  | comment hc he =>
    rw [uriDurations, if_neg (by simp [isUriLine, hc]), durationLine,
      tagValue_of_untagged (by decide) he, Option.none_or]
  | uri hc hr =>
    obtain ⟨-, -, -, -, hentries, hdraft⟩ := Reading.uri_ok hr
    rw [hentries, hdraft, uriDurations, if_pos (by simp [isUriLine, hc]), List.append_assoc,
      List.singleton_append]

/-- A variant stream tag is neither a URI line nor the end marker, and gives no media sequence and
no target duration. -/
theorem streamPrefix_line {l : String} (h : l.startsWith streamPrefix = true) :
    isUriLine l = false ∧ l ≠ "#EXT-X-ENDLIST" ∧ numberLine sequencePrefix l = none ∧
      numberLine targetPrefix l = none := by
  refine ⟨isUriLine_of_tag (startsWith_of_startsWith h (by decide +kernel)), ?_,
    tagValue_of_other h (by decide) (by decide), tagValue_of_other h (by decide) (by decide)⟩
  rintro rfl
  exact absurd h (by decide +kernel)

/-- The segments a run of lines adds are its URI lines, in order; by induction on the lines, one
step each. -/
theorem Reading.run_uris {r r' : Reading} {ls : List String} (h : r.run ls = .ok r') :
    r'.entries.map (·.uri) = r.entries.map (·.uri) ++ ls.filter isUriLine := by
  induction ls generalizing r with
  | nil =>
    cases h
    simp
  | cons l rest ih =>
    rcases Reading.run_cons h with ⟨hs, rfl, rfl⟩ | ⟨r₁, hstep, hrun⟩
    · simp [(streamPrefix_line hs).1]
    · rw [ih hrun, hstep.uris]
      cases hl : isUriLine l <;> simp [hl]

/-- A run of lines ends the list exactly when one of them is `#EXT-X-ENDLIST`. -/
theorem Reading.run_ended {r r' : Reading} {ls : List String} (h : r.run ls = .ok r') :
    (r'.ended = true ↔ r.ended = true ∨ "#EXT-X-ENDLIST" ∈ ls) := by
  induction ls generalizing r with
  | nil =>
    cases h
    simp
  | cons l rest ih =>
    rcases Reading.run_cons h with ⟨hs, rfl, rfl⟩ | ⟨r₁, hstep, hrun⟩
    · simp [Ne.symm (streamPrefix_line hs).2.1]
    · rw [ih hrun, hstep.ended, List.mem_cons, or_assoc, @eq_comm _ l]

/-- A run of lines leaves the media sequence at the number of its last media sequence tag, or as
it was when it has none. -/
theorem Reading.run_mediaSequence {r r' : Reading} {ls : List String} (h : r.run ls = .ok r') :
    r'.mediaSequence =
      ((ls.filterMap (numberLine sequencePrefix)).getLast?).getD r.mediaSequence := by
  induction ls generalizing r with
  | nil =>
    cases h
    rfl
  | cons l rest ih =>
    rcases Reading.run_cons h with ⟨hs, rfl, rfl⟩ | ⟨r₁, hstep, hrun⟩
    · simp [(streamPrefix_line hs).2.2.1]
    · rw [ih hrun, hstep.mediaSequence]
      cases hl : numberLine sequencePrefix l <;> simp [hl, List.getLast?_cons]

/-- A run of lines leaves the target duration at that of its last target duration tag, or as it
was when it has none. -/
theorem Reading.run_target {r r' : Reading} {ls : List String} (h : r.run ls = .ok r') :
    r'.target =
      (((ls.filterMap (numberLine targetPrefix)).getLast?).map (· * nanosPerSecond)).or
        r.target := by
  induction ls generalizing r with
  | nil =>
    cases h
    rfl
  | cons l rest ih =>
    rcases Reading.run_cons h with ⟨hs, rfl, rfl⟩ | ⟨r₁, hstep, hrun⟩
    · simp [(streamPrefix_line hs).2.2.2]
    · rw [ih hrun, hstep.target]
      cases hl : numberLine targetPrefix l <;>
        cases hlast : ((rest.filterMap (numberLine targetPrefix)).getLast?) <;>
        simp [hl, hlast, List.getLast?_cons]

/-- A run of lines gives its segments the durations `uriDurations` reads off the lines. -/
theorem Reading.run_durations {r r' : Reading} {ls : List String} (h : r.run ls = .ok r') :
    r'.entries.map (some ·.durationNs) =
      r.entries.map (some ·.durationNs) ++ uriDurations r.draft.durationNs ls := by
  induction ls generalizing r with
  | nil =>
    cases h
    simp [uriDurations]
  | cons l rest ih =>
    rcases Reading.run_cons h with ⟨hs, rfl, rfl⟩ | ⟨r₁, hstep, hrun⟩
    · simp [uriDurations, (streamPrefix_line hs).1]
    · rw [ih hrun]
      exact hstep.durations rest

/-- Numbers from `m` on, in 64-bit arithmetic. -/
theorem toNat_add_index (m : UInt64) (i : Nat) :
    (m + i.toUInt64).toNat = (m.toNat + i % UInt64.size) % UInt64.size := by
  simp [UInt64.toNat_add]

/-- Numbering from `m` on rises at every step exactly when it does not pass `2^64 - 1`. -/
theorem numbering_pairwise_iff (m : UInt64) (n : Nat) :
    ((List.range n).map fun i => m + i.toUInt64).Pairwise (· < ·) ↔ m.toNat + n ≤ UInt64.size := by
  have hm := m.toNat_lt_size
  constructor
  · intro h
    refine Nat.le_of_not_lt fun hover => ?_
    -- the number that wraps to zero comes after `m` but is not above it
    have hi : UInt64.size - m.toNat < n := by omega
    have hpos : 0 < UInt64.size - m.toNat := by omega
    have hlt := List.pairwise_iff_getElem.1 h 0 (UInt64.size - m.toNat) (by simp; omega)
      (by simpa using hi) hpos
    simp only [List.getElem_map, List.getElem_range, UInt64.lt_iff_toNat_lt, toNat_add_index] at hlt
    have hwrap : (m.toNat + (UInt64.size - m.toNat) % UInt64.size) % UInt64.size = 0 := by
      rcases Nat.eq_zero_or_pos m.toNat with h0 | h0
      · simp [h0]
      · rw [Nat.mod_eq_of_lt (by omega : UInt64.size - m.toNat < UInt64.size)]
        rw [Nat.add_sub_cancel' (Nat.le_of_lt hm), Nat.mod_self]
    rw [hwrap] at hlt
    omega
  · intro h
    rw [List.pairwise_map]
    refine List.pairwise_lt_range.imp_of_mem fun {a b} ha hb hab => ?_
    have ha' := List.mem_range.1 ha
    have hb' := List.mem_range.1 hb
    rw [UInt64.lt_iff_toNat_lt, toNat_add_index, toNat_add_index,
      Nat.mod_eq_of_lt (by omega : a < UInt64.size), Nat.mod_eq_of_lt (by omega : b < UInt64.size),
      Nat.mod_eq_of_lt (by omega), Nat.mod_eq_of_lt (by omega)]
    omega

/-- The segments numbered from `m` on carry the numbers `m`, `m + 1`, … in 64-bit arithmetic. -/
theorem numbered_sequences (m : UInt64) (entries : List Entry) :
    (entries.zipIdx.map fun (e, i) => (⟨m + i.toUInt64, e.uri, e.durationNs⟩ : Segment)).map
        (·.sequence) = (List.range entries.length).map fun i => m + i.toUInt64 := by
  have hidx : entries.zipIdx.map Prod.snd = List.range entries.length := by
    rw [List.zipIdx_map_snd, List.range_eq_range']
  rw [List.map_map, ← hidx, List.map_map]
  rfl

/-- The segments numbered from `m` on keep the URIs and durations of the entries, in order. -/
theorem numbered_map {α : Type} (f : String → Nat → α) (m : UInt64) (entries : List Entry) :
    (entries.zipIdx.map fun (e, i) => (⟨m + i.toUInt64, e.uri, e.durationNs⟩ : Segment)).map
        (fun s => f s.uri s.durationNs) = entries.map fun e => f e.uri e.durationNs := by
  conv => rhs; rw [← List.zipIdx_map_fst 0 entries]
  rw [List.map_map, List.map_map]
  rfl

/-- What a read playlist is made of: the lines of its body, read from an empty reading, with the
target duration read and its segments numbered from the media sequence on. -/
theorem parse_ok {text : String} {p : MediaPlaylist} (h : parse text = .ok p) :
    ∃ body r, afterTag text "#EXTM3U" = .ok body ∧ Reading.run {} (bodyLines body) = .ok r ∧
      r.target = some p.targetDurationNs ∧
      p.mediaSequence = r.mediaSequence.toUInt64 ∧ p.ended = r.ended ∧
      p.segments = r.entries.zipIdx.map fun (e, i) =>
        ⟨r.mediaSequence.toUInt64 + i.toUInt64, e.uri, e.durationNs⟩ := by
  unfold parse at h
  cases hb : afterTag text "#EXTM3U" with
  | error e => simp [hb, bind, Except.bind] at h
  | ok body =>
    cases hr : Reading.run {} (bodyLines body) with
    | error e => simp [hb, hr, bind, Except.bind] at h
    | ok r =>
      simp only [hb, hr, bind, Except.bind] at h
      refine ⟨body, r, rfl, hr, ?_⟩
      -- a segment tag left without its URI, a missing target duration and a failed check refuse
      split at h
      · simp [throw, throwThe, MonadExceptOf.throw] at h
      · split at h
        · cases h
        · next target htarget =>
          split at h
          · cases h
          · cases h
            exact ⟨htarget, rfl, rfl, rfl⟩

/-- How the segment engine reads a playlist. A text the reader refuses is refused with an engine
error carrying the refusal's message, except for a segment duration that does not convert, on
which the conversion panics; every text the reader takes reads the same. A media playlist that
reads has the media sequence of the last media sequence tag of its body, 0 when there is none,
and the target duration of its last target duration tag. It lists the URI lines of its body, in
order, each with the duration of the last duration tag since the URI line before it, numbered
from its media sequence on in 64-bit arithmetic, and has ended exactly when its body holds the
line `#EXT-X-ENDLIST`. The numbers rise at every segment exactly when the last of them does not
pass `2^64 - 1`; past it they wrap around to zero. -/
theorem reads_numbered_segments (text : String) :
    (∀ e, parse text = .error e → (∀ d, e ≠ .badDuration d) →
      parseMediaPlaylist text = .error (.refused (.playlistParse e.message))) ∧
    (∀ d, parse text = .error (.badDuration d) →
      parseMediaPlaylist text = .error (.panicked d.message)) ∧
    (∀ p, parseMediaPlaylist text = .ok p ↔ parse text = .ok p) ∧
    ∀ p, parseMediaPlaylist text = .ok p → ∃ body, afterTag text "#EXTM3U" = .ok body ∧
      p.mediaSequence.toNat =
        (((bodyLines body).filterMap (numberLine sequencePrefix)).getLast?).getD 0 ∧
      ((bodyLines body).filterMap (numberLine targetPrefix)).getLast?.map (· * nanosPerSecond) =
        some p.targetDurationNs ∧
      p.segments.map (·.uri) = (bodyLines body).filter isUriLine ∧
      p.segments.map (some ·.durationNs) = uriDurations none (bodyLines body) ∧
      (p.ended = true ↔ "#EXT-X-ENDLIST" ∈ bodyLines body) ∧
      (∀ i (hi : i < p.segments.length), p.segments[i].sequence = p.mediaSequence + i.toUInt64) ∧
      ((p.segments.map (·.sequence)).Pairwise (· < ·) ↔
        p.mediaSequence.toNat + p.segments.length ≤ UInt64.size) := by
  refine ⟨fun e he hd => ?_, fun d hd => ?_, fun p => mapError_eq_ok, fun p hp => ?_⟩
  · -- every refusal other than a duration is named by its message
    cases e
    case badDuration d => exact absurd rfl (hd d)
    all_goals simp only [parseMediaPlaylist, he]; rfl
  · simp only [parseMediaPlaylist, hd]
    rfl
  obtain ⟨body, r, hb, hr, ht, hm, he, hs⟩ := parse_ok (mapError_eq_ok.1 hp)
  have hseq : p.segments.map (·.sequence) =
      (List.range p.segments.length).map fun i => p.mediaSequence + i.toUInt64 := by
    rw [hs, hm, numbered_sequences, List.length_map, List.length_zipIdx]
  refine ⟨body, hb, ?_, ?_, ?_, ?_, ?_, fun i hi => ?_, ?_⟩
  · -- the last media sequence tag's number fits 64 bits, so the playlist keeps it as it is
    rw [hm, Reading.run_mediaSequence hr]
    cases hlast : ((bodyLines body).filterMap (numberLine sequencePrefix)).getLast? with
    | none => rfl
    | some n =>
      obtain ⟨l, -, hl⟩ := List.mem_filterMap.1 (List.mem_of_getLast? hlast)
      simp [Nat.mod_eq_of_lt (numberLine_lt hl)]
  · -- the empty reading has no target duration, so the run read one
    rw [← ht, Reading.run_target hr]
    cases ((bodyLines body).filterMap (numberLine targetPrefix)).getLast? <;> rfl
  · -- the segments keep the URIs of the entries read, which are the URI lines
    rw [hs, numbered_map (fun u _ => u), Reading.run_uris hr]
    rfl
  · rw [hs, numbered_map (fun _ d => some d), Reading.run_durations hr]
    rfl
  · rw [he, Reading.run_ended hr]
    simp
  · have hget := List.getElem_of_eq hseq (by simpa using hi)
    simpa using hget
  · rw [hseq, numbering_pairwise_iff]

/-- A playlist with a target duration, a media sequence tag and its end marker reads with that
target duration and media sequence, and has ended. -/
theorem sequence_tag_playlist_reads :
    parseMediaPlaylist
        "#EXTM3U\n#EXT-X-TARGETDURATION:2\n#EXT-X-MEDIA-SEQUENCE:7\n#EXT-X-ENDLIST\n" =
        .ok ⟨2000000000, 7, [], true⟩ ∧
      ∃ body,
        afterTag "#EXTM3U\n#EXT-X-TARGETDURATION:2\n#EXT-X-MEDIA-SEQUENCE:7\n#EXT-X-ENDLIST\n"
          "#EXTM3U" = .ok body ∧
        (((bodyLines body).filterMap (numberLine sequencePrefix)).getLast?).getD 0 = 7 ∧
        ((bodyLines body).filterMap (numberLine targetPrefix)).getLast?.map (· * nanosPerSecond) =
          some 2000000000 ∧
        "#EXT-X-ENDLIST" ∈ bodyLines body := by
  have hp : parseMediaPlaylist
      "#EXTM3U\n#EXT-X-TARGETDURATION:2\n#EXT-X-MEDIA-SEQUENCE:7\n#EXT-X-ENDLIST\n" =
      .ok ⟨2000000000, 7, [], true⟩ := eq_ok_of_toOption (by decide +kernel)
  obtain ⟨body, hb, hseq, htarget, -, -, hend, -⟩ :=
    (reads_numbered_segments
      "#EXTM3U\n#EXT-X-TARGETDURATION:2\n#EXT-X-MEDIA-SEQUENCE:7\n#EXT-X-ENDLIST\n").2.2.2 _ hp
  exact ⟨hp, body, hb, hseq.symm, htarget, hend.1 rfl⟩

end LiveViewer.Playlist
