import LiveViewer.Signal.Candidate
import LiveViewer.Proofs.Json.Skip

/-!
# Wrapped candidates are unwrapped exactly

A candidate text that holds a whole candidate record, as a serializer writes one, is read back
to the record's candidate line, media tag and media index, whatever the order of the members,
whichever spelling of the index key, and whatever other members the record carries; the tag and
index beside the text are used only where the record gives none. Any other text is used as it
is (`unwraps_written_record`).

The members of a record (`members`) are the candidate line, an optional tag and an optional
index, written as text or `null`, and other members whose keys the reader does not know. The
reader goes through them in the order written. After the members `P` it has drafted what `P`
names (`drafted`) and recorded the fields `P` named (`Seen`); one member keeps that
(`go_member_step`), since the record names each field at most once, and the whole list follows
by induction (`go_suffix`).
-/

namespace LiveViewer.RemoteCandidate

open Json Json.Reader Json.Decode

/-! ## The record's members -/

/-- The key of the media index: `sdpMLineIndex`, or `sdpMlineIndex` when `lower`. -/
def indexKey (lower : Bool) : String := if lower then "sdpMlineIndex" else "sdpMLineIndex"

/-- An optional text as a value: the text, or `null`. -/
def optText (o : Option String) : Compact := o.elim .null .string

/-- An optional index as a value: its digits, or `null`. -/
def optIndex (i : Option UInt16) : Compact := i.elim .null fun n => .number false n.toNat [] none

/-- The keys the record reader knows. -/
def knownKeys : List String := ["candidate", "sdpMid", "sdpMLineIndex", "sdpMlineIndex"]

/-- The members a serializer writes for a candidate record with candidate line `c`: the media
tag when `mid` gives one, the media index when `index` gives one with the spelling of its key,
and `extras`. -/
def members (c : String) (mid : Option (Option String)) (index : Option (Bool × Option UInt16))
    (extras : List (String × Compact)) : List (String × Compact) :=
  ("candidate", .string c) :: ((mid.map fun m => ("sdpMid", optText m)).toList ++
    ((index.map fun p => (indexKey p.1, optIndex p.2)).toList ++ extras))

theorem mem_members {c : String} {mid : Option (Option String)}
    {index : Option (Bool × Option UInt16)} {extras : List (String × Compact)}
    {m : String × Compact} (h : m ∈ members c mid index extras) :
    m = ("candidate", .string c) ∨ (∃ o, mid = some o ∧ m = ("sdpMid", optText o)) ∨
      (∃ lower i, index = some (lower, i) ∧ m = (indexKey lower, optIndex i)) ∨ m ∈ extras := by
  simp only [members, List.mem_cons, List.mem_append, Option.mem_toList,
    Option.map_eq_some_iff] at h
  rcases h with h | ⟨o, ho, rfl⟩ | ⟨⟨lower, i⟩, hi, rfl⟩ | h
  · exact .inl h
  · exact .inr (.inl ⟨o, ho, rfl⟩)
  · exact .inr (.inr (.inl ⟨lower, i, hi, rfl⟩))
  · exact .inr (.inr (.inr h))

/-! ## The fields the keys name -/

@[simp] theorem candidateField_names : candidateField.names = ["candidate"] := rfl

@[simp] theorem midField_names : midField.names = ["sdpMid"] := rfl

@[simp] theorem indexField_names : indexField.names = ["sdpMLineIndex", "sdpMlineIndex"] := rfl

/-- Which field a key names. -/
theorem find_field (k : String) :
    fields.find? (fun f => f.names.contains k) =
      if k = "candidate" then some candidateField
      else if k = "sdpMid" then some midField
      else if k = "sdpMLineIndex" ∨ k = "sdpMlineIndex" then some indexField
      else none := by
  by_cases h₁ : k = "candidate"
  · subst h₁
    rfl
  by_cases h₂ : k = "sdpMid"
  · subst h₂
    rfl
  by_cases h₃ : k = "sdpMLineIndex" ∨ k = "sdpMlineIndex"
  · rcases h₃ with rfl | rfl <;> rfl
  · simp only [not_or] at h₃
    simp [fields, candidateField, midField, indexField, Field.names, h₁, h₂, h₃.1, h₃.2]

theorem find_unknown {k : String} (hk : k ∉ knownKeys) :
    fields.find? (fun f => f.names.contains k) = none := by
  simp only [knownKeys, List.mem_cons, List.not_mem_nil, or_false, not_or] at hk
  rw [find_field, if_neg hk.1, if_neg hk.2.1, if_neg (by simp [hk.2.2.1, hk.2.2.2])]

/-! ## Reading the known members -/

theorem read_candidate (c : String) (d : Draft) (r : List Char) (n : Nat) :
    candidateField.read d ⟨(Compact.string c).write ++ r, n⟩ = .ok (c, d.2) ⟨r, n⟩ :=
  read_store (string_quote c r n)

theorem optText_write (o : Option String) :
    (optText o).write = (Value.optString o).write.toList := by
  cases o <;> rfl

theorem read_mid (o : Option String) (d : Draft) (r : List Char) (n : Nat) :
    midField.read d ⟨(optText o).write ++ r, n⟩ = .ok (d.1, o, d.2.2) ⟨r, n⟩ := by
  rw [optText_write]
  exact read_store (option_optString o r n)

theorem read_index (i : Option UInt16) (d : Draft) {x : Char} (hx : x = ',' ∨ x = '}')
    (r : List Char) (n : Nat) :
    indexField.read d ⟨(optIndex i).write ++ x :: r, n⟩ =
      .ok (d.1, d.2.1, i.map UInt16.toNat) ⟨x :: r, n⟩ := by
  cases i with
  | none => exact read_store (option_null _ (x :: r) n)
  | some k =>
    -- the digits start with a digit, which is neither a blank nor the `n` of `null`
    obtain ⟨c, ds, hcd⟩ := toDigits_cons k.toNat
    have hc : c.isDigit = true := toDigits_isDigit k.toNat c (by rw [hcd]; simp)
    have hn : c ≠ 'n' := by
      rintro rfl
      simp at hc
    have hu := u16_toDigits k hx r n
    simp only [optIndex, Option.elim, Compact.write, Bool.false_eq_true, ↓reduceIte,
      List.nil_append, fractionText, exponentText, List.append_nil, hcd, List.cons_append] at hu ⊢
    exact read_store (option_some (isBlank_of_isDigit hc) hn hu)

/-- A key names a field exactly when the field it finds has that field's name. -/
theorem contains_names {k : String} {f g : Decode.Field Draft}
    (hf : fields.find? (fun f => f.names.contains k) = some f) (hg : g ∈ fields) :
    g.names.contains k = (g.name == f.name) := by
  rw [find_field] at hf
  simp only [fields, List.mem_cons, List.not_mem_nil, or_false] at hg
  split at hf
  · next hk =>
    cases hf
    subst hk
    rcases hg with rfl | rfl | rfl <;> rfl
  · split at hf
    · next hk =>
      cases hf
      subst hk
      rcases hg with rfl | rfl | rfl <;> rfl
    · split at hf
      · next hk =>
        cases hf
        rcases hk with rfl | rfl <;> rcases hg with rfl | rfl | rfl <;> rfl
      · cases hf

/-! ## What the reader holds after some members -/

/-- Whether one of the members `P` names the field `f`. -/
def named (f : Decode.Field Draft) (P : List (String × Compact)) : Bool :=
  P.any fun m => f.names.contains m.1

/-- What the reader has drafted after the members `P` of the record `members c mid index _`:
each field holds the record's value once a member named it. -/
def drafted (c : String) (mid : Option (Option String)) (index : Option (Bool × Option UInt16))
    (P : List (String × Compact)) : Draft :=
  (bif named candidateField P then c else "", bif named midField P then mid.join else none,
    bif named indexField P then (index.bind (·.2)).map UInt16.toNat else none)

/-- The reader has recorded as read exactly the fields that the members `P` named. -/
def Seen (P : List (String × Compact)) (seen : List String) : Prop :=
  ∀ f ∈ fields, seen.contains f.name = named f P

theorem seen_nil : Seen [] [] := by
  intro f _
  simp [named]

/-- A member that names a field adds the field to those read. -/
theorem Seen.known {P : List (String × Compact)} {seen : List String} (h : Seen P seen)
    {k : String} {f : Decode.Field Draft} (hf : fields.find? (fun f => f.names.contains k) = some f)
    (v : Compact) : Seen (P ++ [(k, v)]) (f.name :: seen) := by
  intro g hg
  have hP := h g hg
  simp only [named] at hP ⊢
  rw [List.contains_cons, hP, List.any_append, List.any_cons, List.any_nil, Bool.or_false,
    contains_names hf hg, Bool.or_comm]

/-- A member that names no field leaves the fields read as they were. -/
theorem Seen.unknown {P : List (String × Compact)} {seen : List String} (h : Seen P seen)
    {k : String} (hf : fields.find? (fun f => f.names.contains k) = none) (v : Compact) :
    Seen (P ++ [(k, v)]) seen := by
  intro g hg
  have hk : g.names.contains k = false := by
    simpa using List.find?_eq_none.1 hf g hg
  have hP := h g hg
  simp only [named] at hP ⊢
  rw [hP, List.any_append, List.any_cons, List.any_nil, Bool.or_false, hk, Bool.or_false]

section Draft

variable {c : String} {mid : Option (Option String)} {index : Option (Bool × Option UInt16)}
  {P : List (String × Compact)} (v : Compact)

theorem drafted_candidate :
    drafted c mid index (P ++ [("candidate", v)]) = (c, (drafted c mid index P).2) := by
  simp [drafted, named, List.any_append]

theorem drafted_mid :
    drafted c mid index (P ++ [("sdpMid", v)]) =
      ((drafted c mid index P).1, mid.join, (drafted c mid index P).2.2) := by
  simp [drafted, named, List.any_append]

theorem drafted_index (lower : Bool) :
    drafted c mid index (P ++ [(indexKey lower, v)]) =
      ((drafted c mid index P).1, (drafted c mid index P).2.1,
        (index.bind (·.2)).map UInt16.toNat) := by
  cases lower <;>
    simp [drafted, named, indexKey, List.any_append]

theorem drafted_unknown {k : String} (hk : k ∉ knownKeys) :
    drafted c mid index (P ++ [(k, v)]) = drafted c mid index P := by
  simp only [knownKeys, List.mem_cons, List.not_mem_nil, or_false, not_or] at hk
  simp [drafted, named, List.any_append, hk.1, hk.2.1, hk.2.2.1, hk.2.2.2]

end Draft

/-! ## Reading the members -/

/-- A record names each of its fields at most once. -/
theorem countP_members_le {c : String} {mid : Option (Option String)}
    {index : Option (Bool × Option UInt16)} {extras : List (String × Compact)}
    (hextras : ∀ m ∈ extras, m.1 ∉ knownKeys) {f : Decode.Field Draft} (hf : f ∈ fields) :
    (members c mid index extras).countP (fun m => f.names.contains m.1) ≤ 1 := by
  simp only [fields, List.mem_cons, List.not_mem_nil, or_false] at hf
  -- the other members name no field
  have hx : extras.countP (fun m => f.names.contains m.1) = 0 := by
    rw [List.countP_eq_zero]
    intro m hm
    have hk := hextras m hm
    simp only [knownKeys, List.mem_cons, List.not_mem_nil, or_false, not_or] at hk
    rcases hf with rfl | rfl | rfl <;> simp [hk.1, hk.2.1, hk.2.2.1, hk.2.2.2]
  rw [members, List.countP_cons, List.countP_append, List.countP_append, hx]
  rcases index with _ | ⟨lower, i⟩ <;> cases mid <;> try cases lower
  all_goals rcases hf with rfl | rfl | rfl <;> simp [indexKey]

/-- A member named in a list where that happens at most once is not named before it. -/
theorem any_eq_false_of_countP {α : Type} {p : α → Bool} {P S : List α} {m : α}
    (h : (P ++ m :: S).countP p ≤ 1) (hm : p m = true) : P.any p = false := by
  rw [List.countP_append, List.countP_cons, if_pos hm] at h
  have h0 : P.countP p = 0 := by omega
  rw [List.countP_eq_zero] at h0
  simpa using h0

/-- What follows a member inside a written object: a comma or the closing brace. -/
theorem members_end (S : List (String × Compact)) (r : List Char) :
    ∃ x r', Compact.writeMembers false S ++ '}' :: r = x :: r' ∧ (x = ',' ∨ x = '}') := by
  cases S with
  | nil => exact ⟨'}', r, rfl, .inr rfl⟩
  | cons m S =>
    exact ⟨',', (quote m.1).toList ++ ':' :: (m.2.write ++ Compact.writeMembers false S) ++
      '}' :: r, by simp [Compact.writeMembers], .inl rfl⟩

/-- A written object has at least as many characters as members. -/
theorem length_le_writeMembers (first : Bool) (ms : List (String × Compact)) :
    ms.length ≤ (Compact.writeMembers first ms).length := by
  induction ms generalizing first with
  | nil => simp [Compact.writeMembers]
  | cons m ms ih =>
    have := ih false
    simp only [Compact.writeMembers, List.length_append, List.length_cons, quote_toList]
    omega

section Members

variable {c : String} {mid : Option (Option String)} {index : Option (Bool × Option UInt16)}
  {extras ms : List (String × Compact)}

/-- A field that the member `m` names was named by none of the members before it. -/
theorem fresh (hextras : ∀ m ∈ extras, m.1 ∉ knownKeys)
    (hms : ms.Perm (members c mid index extras)) {P S : List (String × Compact)}
    {m : String × Compact} (h : P ++ m :: S = ms) {seen : List String} (hseen : Seen P seen)
    {f : Decode.Field Draft} (hf : f ∈ fields) (hm : f.names.contains m.1 = true) :
    seen.contains f.name = false := by
  rw [hseen f hf, named]
  have hcount : (P ++ m :: S).countP (fun m => f.names.contains m.1) ≤ 1 := by
    rw [h, hms.countP_eq]
    exact countP_members_le hextras hf
  exact any_eq_false_of_countP hcount hm

/-- One member of the record: a field it names is read into the draft, and any other member
is skipped. -/
theorem go_member_step (hextras : ∀ m ∈ extras, m.1 ∉ knownKeys)
    (hms : ms.Perm (members c mid index extras)) {P S : List (String × Compact)} {k : String}
    {v : Compact} (h : P ++ (k, v) :: S = ms) {seen : List String} (hseen : Seen P seen) :
    ∃ seen', Seen (P ++ [(k, v)]) seen' ∧ ∀ first fuel r n,
      fieldsFromObject.go fields (fuel + 1) first seen (drafted c mid index P)
          ⟨(if first then [] else [',']) ++
            ((quote k).toList ++ ':' :: (v.write ++ (Compact.writeMembers false S ++ '}' :: r))),
            n⟩ =
        fieldsFromObject.go fields fuel false seen' (drafted c mid index (P ++ [(k, v)]))
          ⟨Compact.writeMembers false S ++ '}' :: r, n⟩ := by
  have hmem : (k, v) ∈ members c mid index extras := hms.subset (by rw [← h]; simp)
  rcases mem_members hmem with heq | ⟨o, rfl, heq⟩ | ⟨lower, i, rfl, heq⟩ | hext
  · obtain ⟨rfl, rfl⟩ := Prod.mk.inj heq
    have hf : fields.find? (fun f => f.names.contains "candidate") = some candidateField := rfl
    refine ⟨_, hseen.known hf _, fun first fuel r n => ?_⟩
    rw [drafted_candidate]
    exact go_member first hf (fresh hextras hms h hseen (by simp [fields]) (by simp))
      (read_candidate c _ _ n)
  · obtain ⟨rfl, rfl⟩ := Prod.mk.inj heq
    have hf : fields.find? (fun f => f.names.contains "sdpMid") = some midField := rfl
    refine ⟨_, hseen.known hf _, fun first fuel r n => ?_⟩
    rw [drafted_mid]
    exact go_member first hf (fresh hextras hms h hseen (by simp [fields]) (by simp))
      (read_mid o _ _ n)
  · obtain ⟨rfl, rfl⟩ := Prod.mk.inj heq
    have hf : fields.find? (fun f => f.names.contains (indexKey lower)) = some indexField := by
      cases lower <;> rfl
    refine ⟨_, hseen.known hf _, fun first fuel r n => ?_⟩
    -- the index is read as a number, which needs to know what ends it
    obtain ⟨x, r', hR, hx⟩ := members_end S r
    rw [hR, drafted_index]
    exact go_member first hf
      (fresh hextras hms h hseen (by simp [fields]) (by cases lower <;> simp [indexKey]))
      (read_index i _ hx r' n)
  · -- a member of no field: its value is skipped, and it must end where a member ends
    have hk := hextras _ hext
    have hf := find_unknown hk
    refine ⟨seen, hseen.unknown hf v, fun first fuel r n => ?_⟩
    obtain ⟨x, r', hR, hx⟩ := members_end S r
    rw [hR, drafted_unknown v hk]
    exact go_unknown first hf (skipValue_write v ⟨x, r', rfl, hx.elim .inl (.inr ∘ .inr)⟩ n)

/-- Reading the members `S` that follow `P` stops at the closing brace, with the draft of the
whole record. By induction on `S`, one member a step. -/
theorem go_suffix (hextras : ∀ m ∈ extras, m.1 ∉ knownKeys)
    (hms : ms.Perm (members c mid index extras)) (r : List Char) (n : Nat)
    (S : List (String × Compact)) :
    ∀ (P : List (String × Compact)) (seen : List String), P ++ S = ms → Seen P seen →
      ∃ seen', Seen ms seen' ∧ ∀ fuel,
        fieldsFromObject.go fields (fuel + S.length + 1) P.isEmpty seen (drafted c mid index P)
            ⟨Compact.writeMembers P.isEmpty S ++ '}' :: r, n⟩ =
          .ok (drafted c mid index ms, seen') ⟨'}' :: r, n⟩ := by
  induction S with
  | nil =>
    intro P seen h hseen
    rw [List.append_nil] at h
    subst h
    exact ⟨seen, hseen, fun fuel => go_close fields fuel _ seen _ r n⟩
  | cons m S ih =>
    obtain ⟨k, v⟩ := m
    intro P seen h hseen
    obtain ⟨seen₁, hseen₁, hstep⟩ := go_member_step hextras hms h hseen
    obtain ⟨seen', hseen', hgo⟩ := ih (P ++ [(k, v)]) seen₁ (by simpa using h) hseen₁
    refine ⟨seen', hseen', fun fuel => ?_⟩
    have hlen : fuel + ((k, v) :: S).length + 1 = fuel + S.length + 1 + 1 := by
      simp only [List.length_cons]
      omega
    have hne : (P ++ [(k, v)]).isEmpty = false := by simp
    rw [hne] at hgo
    simp only [hlen, Compact.writeMembers, List.append_assoc, List.cons_append]
    rw [hstep P.isEmpty]
    exact hgo fuel

/-- Once every member is read, the draft holds the record's values. -/
theorem drafted_members (hms : ms.Perm (members c mid index extras)) :
    drafted c mid index ms = (c, mid.join, (index.bind (·.2)).map UInt16.toNat) := by
  have hnamed : ∀ (f : Decode.Field Draft) k v, (k, v) ∈ members c mid index extras →
      f.names.contains k = true → named f ms = true :=
    fun f k v hm hk => List.any_eq_true.2 ⟨(k, v), hms.symm.subset hm, hk⟩
  have hc := hnamed candidateField "candidate" (.string c) (by simp [members]) (by simp)
  have hm : (bif named midField ms then mid.join else none) = mid.join := by
    rcases mid with _ | o
    · cases named midField ms <;> rfl
    · rw [hnamed midField "sdpMid" (optText o) (by simp [members]) (by simp)]
      rfl
  have hi : (bif named indexField ms then (index.bind (·.2)).map UInt16.toNat else none) =
      (index.bind (·.2)).map UInt16.toNat := by
    rcases index with _ | ⟨lower, i⟩
    · cases named indexField ms <;> rfl
    · rw [hnamed indexField (indexKey lower) (optIndex i) (by simp [members])
        (by cases lower <;> simp [indexKey])]
      rfl
  rw [drafted, hc, hm, hi]
  rfl

end Members

/-! ## The record, the text and the signal -/

section Record

variable {c : String} {mid : Option (Option String)} {index : Option (Bool × Option UInt16)}
  {extras ms : List (String × Compact)}

/-- The members of a written record are read into its candidate line, tag and index. -/
theorem fieldsFromObject_members (hextras : ∀ m ∈ extras, m.1 ∉ knownKeys)
    (hms : ms.Perm (members c mid index extras)) (r : List Char) (n : Nat) :
    fieldsFromObject fields ("", none, none) ⟨Compact.writeMembers true ms ++ '}' :: r, n⟩ =
      .ok (c, mid.join, (index.bind (·.2)).map UInt16.toNat) ⟨'}' :: r, n⟩ := by
  obtain ⟨seen, hseen, hgo⟩ := go_suffix hextras hms r n ms [] [] (List.nil_append ms) seen_nil
  have hstart : drafted c mid index [] = ("", none, none) := by simp [drafted, named]
  simp only [hstart, drafted_members hms, List.isEmpty_nil] at hgo
  -- the one required field, the candidate line, was read
  have hc : seen.contains candidateField.name = true := by
    rw [hseen candidateField (by simp [fields])]
    exact List.any_eq_true.2 ⟨("candidate", .string c), hms.symm.subset (by simp [members]),
      by simp⟩
  refine fieldsFromObject_apply ms.length _ seen ?_ hgo ?_
  · have := length_le_writeMembers true ms
    simp only [List.length_append, List.length_cons]
    omega
  · simp [candidateField] at hc
    simp [fields, candidateField, midField, indexField, hc]

/-- The record reader on a written record after blanks. -/
theorem wrapped_written (hextras : ∀ m ∈ extras, m.1 ∉ knownKeys)
    (hms : ms.Perm (members c mid index extras)) {pre : List Char}
    (hpre : ∀ ch ∈ pre, isBlank ch = true) (r : List Char) :
    wrapped ⟨pre ++ ((Compact.object ms).write ++ r), 128⟩ =
      .ok ⟨c, mid.join, index.bind (·.2)⟩ ⟨r, 128⟩ := by
  have hrec := record_blanks "struct InnerIce" hpre (by decide : 1 < 128)
    (fieldsFromObject_members hextras hms r 127)
  simp only [Compact.write, List.cons_append, List.append_assoc, List.nil_append]
  simp only [wrapped, bind_apply, EStateM.bind, hrec, pure_apply]
  -- the index went through `Nat` and comes back as it was
  rcases index with _ | ⟨_, _ | i⟩ <;> simp

/-- A JSON blank is a blank of text. -/
theorem text_isBlank {ch : Char} (h : isBlank ch = true) : Text.isBlank ch = true := by
  simp only [isBlank, Bool.or_eq_true, decide_eq_true_eq] at h
  rcases h with ((rfl | rfl) | rfl) | rfl <;> decide

/-- A written record after blanks starts with a brace once its blanks are trimmed. -/
theorem trimStart_written {pre post : List Char} (hpre : ∀ ch ∈ pre, isBlank ch = true)
    (ms : List (String × Compact)) :
    (Text.trimStart (String.ofList (pre ++ (Compact.object ms).write ++ post))).startsWith
      "\x7b" = true := by
  have hblank : ∀ ch ∈ pre, Text.isBlank ch = true := fun ch h => text_isBlank (hpre ch h)
  have hbrace : Text.isBlank '\x7b' = false := by decide
  rw [String.startsWith_string_iff]
  simp only [Text.trimStart, String.toList_ofList, List.append_assoc,
    List.dropWhile_append_of_pos hblank, Compact.write, List.cons_append,
    List.dropWhile_cons_of_neg (by simp [hbrace] : ¬Text.isBlank '\x7b' = true)]
  simp

end Record

/-- A candidate text that holds a candidate record, written with its members in any order, the
index under either key, other members besides and blanks around, gives the record's candidate
line, and its tag and index where the record gives them; a text that does not start with a
brace, or does not read as a record, is used as it is. -/
theorem unwraps_written_record (c : String) (mid : Option (Option String))
    (index : Option (Bool × Option UInt16)) (extras : List (String × Compact))
    (hextras : ∀ m ∈ extras, m.1 ∉ knownKeys) (ms : List (String × Compact))
    (hms : ms.Perm (members c mid index extras)) (pre post : List Char)
    (hpre : ∀ ch ∈ pre, isBlank ch = true) (hpost : ∀ ch ∈ post, isBlank ch = true)
    (outerMid : Option String) (outerIndex : Option UInt16) :
    ofSignal (String.ofList (pre ++ (Compact.object ms).write ++ post)) outerMid outerIndex =
        ⟨c, mid.join.or outerMid, (index.bind (·.2)).or outerIndex⟩ ∧
      ∀ t : String, ((Text.trimStart t).startsWith "\x7b" = false ∨
          ∃ e, Decode.run wrapped t = .error e) →
        ofSignal t outerMid outerIndex = ⟨t, outerMid, outerIndex⟩ := by
  constructor
  · have hrun : Decode.run wrapped (String.ofList (pre ++ (Compact.object ms).write ++ post)) =
        .ok ⟨c, mid.join, index.bind (·.2)⟩ := by
      apply run_blanks hpost
      rw [String.toList_ofList, List.append_assoc]
      exact wrapped_written hextras hms hpre post
    simp only [ofSignal, trimStart_written hpre ms, if_true, hrun]
  · rintro t (hs | ⟨e, he⟩)
    · simp [ofSignal, hs]
    · simp [ofSignal, he]

/-- A record written with its tag first, the index under its lower-case key and a
`usernameFragment` member, between blanks; the record's index wins over the one beside it. -/
theorem unwraps_reordered_record :
    ofSignal (String.ofList ([' '] ++ (Compact.object
        [("sdpMid", .string "0"),
          ("candidate", .string "candidate:1 1 udp 2122260223 192.0.2.1 54400 typ host"),
          ("sdpMlineIndex", .number false 0 [] none),
          ("usernameFragment", .string "abc")]).write ++ ['\n'])) none (some 3) =
      ⟨"candidate:1 1 udp 2122260223 192.0.2.1 54400 typ host", some "0", some 0⟩ :=
  (unwraps_written_record "candidate:1 1 udp 2122260223 192.0.2.1 54400 typ host"
    (some (some "0")) (some (true, some 0)) [("usernameFragment", .string "abc")]
    (by simp [knownKeys]) _ (List.Perm.swap _ _ _) [' '] ['\n'] (by simp [isBlank])
    (by simp [isBlank]) none (some 3)).1

end LiveViewer.RemoteCandidate
