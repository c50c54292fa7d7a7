import LiveViewer.Json.Decode

/-!
# Reading back what the writer wrote

The compact writer of `Value.lean` and the readers of `Reader.lean` and `Decode.lean` are two
separate programs: one escapes a text character by character, the other undoes escapes one at a
time through its own table; one prints a number through `Nat.toDigits`, the other folds digits
into a significand while watching for overflow. This module shows that they agree on what the
writer produces: `stringBody` reads the body of `quote s` back to `s` for every text `s`, with
quotes, backslashes and control characters (`stringBody_quote`), `Decode.u16` reads the
digits of every 16-bit number back to it (`u16_toDigits`), and the object and variant readers
take the members the writer separated with commas one after the other (`go_first`, `go_next`,
`record_object`, `variant_object`), also between blanks (`record_blanks`, `run_blanks`).

The readers are run on a cursor directly: `next`, `peek`, `bump` and the blank skipper step
through a list of characters by `rfl`, and `bind_apply` with `EStateM.bind` lets `simp` execute
a `do` block one step at a time. A reader is said to read a piece of text when, whatever follows
the piece, it consumes exactly that piece and leaves the depth as it was.
-/

namespace LiveViewer.Json

namespace Reader

/-! ## Readers on a cursor -/

theorem bind_apply {α β : Type} (x : Reader α) (f : α → Reader β) (s : Cursor) :
    (x >>= f) s = EStateM.bind x f s := rfl

theorem pure_apply {α : Type} (a : α) (s : Cursor) : (pure a : Reader α) s = .ok a s := rfl

theorem map_apply {α β : Type} (f : α → β) (x : Reader α) (s : Cursor) :
    (f <$> x) s = EStateM.map f x s := rfl

theorem modify_apply (f : Cursor → Cursor) (s : Cursor) :
    (modify f : Reader Unit) s = .ok () (f s) := rfl

theorem get_apply (s : Cursor) : (get : Reader Cursor) s = .ok s s := rfl

theorem set_apply (s s' : Cursor) : (set s' : Reader PUnit) s = .ok ⟨⟩ s' := rfl

theorem next_cons (c : Char) (r : List Char) (d : Nat) :
    next ⟨c :: r, d⟩ = .ok (some c) ⟨r, d⟩ := rfl

theorem peek_cons (c : Char) (r : List Char) (d : Nat) :
    peek ⟨c :: r, d⟩ = .ok (some c) ⟨c :: r, d⟩ := rfl

theorem peekOrNull_cons (c : Char) (r : List Char) (d : Nat) :
    peekOrNull ⟨c :: r, d⟩ = .ok c ⟨c :: r, d⟩ := rfl

theorem bump_cons (c : Char) (r : List Char) (d : Nat) :
    bump ⟨c :: r, d⟩ = .ok () ⟨r, d⟩ := rfl

/-- At a character that is no blank, skipping blanks only looks at it. -/
theorem skipBlank_cons {c : Char} (h : isBlank c = false) (r : List Char) (d : Nat) :
    skipBlank ⟨c :: r, d⟩ = .ok (some c) ⟨c :: r, d⟩ := by
  simp [skipBlank, bind_apply, EStateM.bind, modify_apply, h, peek_cons]

/-! ## Strings -/

/-- The characters the writer puts between the quotes of a text. -/
def escaped (s : String) : List Char := s.toList.flatMap fun c => (escapeChar c).toList

theorem quote_toList (s : String) : (quote s).toList = '"' :: escaped s ++ ['"'] := by
  simp [quote, escaped, List.flatMap, Function.comp_def]

/-- A hexadecimal digit the writer prints is read back by `hexValue`. -/
theorem hexValue_hexDigit : ∀ n < 16, hexValue (hexDigit n) = some n := by
  decide

theorem hexDigit_utf8Size : ∀ n < 16, (hexDigit n).utf8Size = 1 := by
  decide

theorem utf8ByteSize_ofList_cons (c : Char) (l : List Char) :
    (String.ofList (c :: l)).utf8ByteSize = c.utf8Size + (String.ofList l).utf8ByteSize := by
  rw [show c :: l = [c] ++ l from rfl, String.ofList_append, String.utf8ByteSize_append]
  simp

/-- Four one-byte hexadecimal digits are read as the value of one `\u` escape. -/
theorem hex4_cons {a b e f : Char} {va vb ve vf : Nat} (ha : hexValue a = some va)
    (hb : hexValue b = some vb) (he : hexValue e = some ve) (hf : hexValue f = some vf)
    (sa : a.utf8Size = 1) (sb : b.utf8Size = 1) (se : e.utf8Size = 1) (sf : f.utf8Size = 1)
    (r : List Char) (d : Nat) :
    hex4 ⟨a :: b :: e :: f :: r, d⟩ = .ok (((va * 16 + vb) * 16 + ve) * 16 + vf) ⟨r, d⟩ := by
  have hsize : ¬(String.ofList (a :: b :: e :: f :: r)).utf8ByteSize < 4 := by
    simp only [utf8ByteSize_ofList_cons, sa, sb, se, sf]
    omega
  have htake : takeBytes 4 (a :: b :: e :: f :: r) = ([a, b, e, f], 0) := by
    simp [takeBytes, sa, sb, se, sf]
  simp only [hex4, bind_apply, EStateM.bind, get_apply]
  rw [if_neg hsize]
  simp [htake, ha, hb, he, hf, map_apply, EStateM.map, set_apply]

/-- The `\u00XX` escape of a control character is read back to it. -/
theorem unicodeEscape_control {c : Char} (h : c.toNat < 0x20) (r : List Char) (d : Nat) :
    unicodeEscape ⟨'0' :: '0' :: hexDigit (c.toNat / 16) :: hexDigit (c.toNat % 16) :: r, d⟩ =
      .ok c ⟨r, d⟩ := by
  have hhi : c.toNat / 16 < 16 := by omega
  have hlo : c.toNat % 16 < 16 := Nat.mod_lt _ (by decide)
  have hv : ((0 * 16 + 0) * 16 + c.toNat / 16) * 16 + c.toNat % 16 = c.toNat := by omega
  rw [unicodeEscape, bind_apply, EStateM.bind,
    hex4_cons (show hexValue '0' = some 0 by decide) (show hexValue '0' = some 0 by decide)
      (hexValue_hexDigit _ hhi) (hexValue_hexDigit _ hlo)
      (by decide) (by decide) (hexDigit_utf8Size _ hhi) (hexDigit_utf8Size _ hlo)]
  simp only [hv]
  -- A control character is no surrogate, so it is taken as it is.
  have hs : ¬(0xDC00 ≤ c.toNat ∧ c.toNat ≤ 0xDFFF) := by omega
  have hb : c.toNat < 0xD800 := by omega
  simp [hs, hb, Char.ofNat_toNat, pure_apply]

/-- A backslash in a string hands the rest to `escape`. -/
theorem go_backslash {fuel : Nat} {acc r r' : List Char} {d : Nat} {e : Char}
    (h : escape ⟨r, d⟩ = .ok e ⟨r', d⟩) :
    stringBody.go (fuel + 1) acc ⟨'\\' :: r, d⟩ = stringBody.go fuel (e :: acc) ⟨r', d⟩ := by
  simp [stringBody.go, bind_apply, EStateM.bind, next_cons, h]

theorem escape_cons {c e : Char} (r : List Char) (d : Nat) (h : (c, e) ∈
    [('"', '"'), ('\\', '\\'), ('n', '\n'), ('r', '\r'), ('t', '\t'), ('b', Char.ofNat 8),
      ('f', Char.ofNat 12)]) :
    escape ⟨c :: r, d⟩ = .ok e ⟨r, d⟩ := by
  simp only [List.mem_cons, Prod.mk.injEq, List.not_mem_nil, or_false] at h
  rcases h with ⟨rfl, rfl⟩ | ⟨rfl, rfl⟩ | ⟨rfl, rfl⟩ | ⟨rfl, rfl⟩ | ⟨rfl, rfl⟩ | ⟨rfl, rfl⟩ |
    ⟨rfl, rfl⟩ <;> rfl

/-- A character the writer escapes with a backslash and one letter is read back. -/
theorem go_short {fuel : Nat} {acc r : List Char} {d : Nat} {c x : Char}
    (hc : (escapeChar c).toList = ['\\', x])
    (hx : (x, c) ∈ [('"', '"'), ('\\', '\\'), ('n', '\n'), ('r', '\r'), ('t', '\t'),
      ('b', Char.ofNat 8), ('f', Char.ofNat 12)]) :
    stringBody.go (fuel + 1) acc ⟨(escapeChar c).toList ++ r, d⟩ =
      stringBody.go fuel (c :: acc) ⟨r, d⟩ := by
  rw [hc]
  exact go_backslash (escape_cons r d hx)

/-- One round of the string loop reads back the escape of one character. -/
theorem go_escapeChar (fuel : Nat) (acc : List Char) (c : Char) (r : List Char) (d : Nat) :
    stringBody.go (fuel + 1) acc ⟨(escapeChar c).toList ++ r, d⟩ =
      stringBody.go fuel (c :: acc) ⟨r, d⟩ := by
  -- The short escapes, one by one.
  by_cases h₁ : c = '"'
  · subst h₁
    exact go_short (show (escapeChar '"').toList = ['\\', '"'] by simp [escapeChar])
      (by simp)
  by_cases h₂ : c = '\\'
  · subst h₂
    exact go_short (show (escapeChar '\\').toList = ['\\', '\\'] by simp [escapeChar])
      (by simp)
  by_cases h₃ : c = '\n'
  · subst h₃
    exact go_short (show (escapeChar '\n').toList = ['\\', 'n'] by simp [escapeChar])
      (by simp)
  by_cases h₄ : c = '\r'
  · subst h₄
    exact go_short (show (escapeChar '\r').toList = ['\\', 'r'] by simp [escapeChar])
      (by simp)
  by_cases h₅ : c = '\t'
  · subst h₅
    exact go_short (show (escapeChar '\t').toList = ['\\', 't'] by simp [escapeChar])
      (by simp)
  by_cases h₆ : c.toNat = 8
  · obtain rfl : c = Char.ofNat 8 := by rw [← h₆, Char.ofNat_toNat]
    exact go_short (show (escapeChar (Char.ofNat 8)).toList = ['\\', 'b'] by simp [escapeChar])
      (by simp)
  by_cases h₇ : c.toNat = 12
  · obtain rfl : c = Char.ofNat 12 := by rw [← h₇, Char.ofNat_toNat]
    exact go_short (show (escapeChar (Char.ofNat 12)).toList = ['\\', 'f'] by simp [escapeChar])
      (by simp)
  by_cases h₈ : c.toNat < 0x20
  · -- Any other control character goes through a `\u` escape.
    simp only [escapeChar, h₁, h₂, h₃, h₄, h₅, h₆, h₇, h₈, if_false, if_true,
      String.toList_ofList, List.cons_append]
    refine go_backslash ?_
    simp [escape, bind_apply, EStateM.bind, next_cons, unicodeEscape_control h₈]
  · -- Every other character stands for itself.
    simp [escapeChar, h₁, h₂, h₃, h₄, h₅, h₆, h₇, h₈, stringBody.go, bind_apply, EStateM.bind,
      next_cons]

theorem go_quote (fuel : Nat) (acc r : List Char) (d : Nat) :
    stringBody.go (fuel + 1) acc ⟨'"' :: r, d⟩ = .ok (String.ofList acc.reverse) ⟨r, d⟩ := by
  simp only [stringBody.go, bind_apply, EStateM.bind, next_cons, pure_apply]

theorem escapeChar_ne_nil (c : Char) : (escapeChar c).toList ≠ [] := by
  unfold escapeChar
  (repeat' split) <;> simp

/-- The string loop reads the escapes of `cs` up to the closing quote back to `cs`, given a
round of fuel for each character it steps over. -/
theorem go_escaped (cs : List Char) (fuel : Nat) (acc r : List Char) (d : Nat)
    (hfuel : (cs.flatMap fun c => (escapeChar c).toList).length < fuel) :
    stringBody.go fuel acc ⟨(cs.flatMap fun c => (escapeChar c).toList) ++ '"' :: r, d⟩ =
      .ok (String.ofList (acc.reverse ++ cs)) ⟨r, d⟩ := by
  induction cs generalizing fuel acc with
  | nil =>
    obtain ⟨f, rfl⟩ : ∃ f, fuel = f + 1 := ⟨fuel - 1, by simp at hfuel; omega⟩
    simpa using go_quote f acc r d
  | cons c cs ih =>
    -- Each escape takes at least one character, so one round of fuel goes with it.
    have hc : 0 < (escapeChar c).toList.length := List.length_pos_iff.2 (escapeChar_ne_nil c)
    rw [List.flatMap_cons, List.length_append] at hfuel
    obtain ⟨f, rfl⟩ : ∃ f, fuel = f + 1 := ⟨fuel - 1, by omega⟩
    rw [List.flatMap_cons, List.append_assoc, go_escapeChar, ih f (c :: acc) (by omega)]
    simp

/-- The body of a quoted text is read back to the text, whatever it holds. -/
theorem stringBody_quote (s : String) (r : List Char) (d : Nat) :
    stringBody ⟨escaped s ++ '"' :: r, d⟩ = .ok s ⟨r, d⟩ := by
  simp only [stringBody, bind_apply, EStateM.bind, get_apply]
  rw [escaped, go_escaped _ _ _ _ _ (by simp only [List.length_append, List.length_cons]; omega)]
  simp

/-! ## Natural numbers -/

theorem isDigit_eq (c : Char) : isDigit c = c.isDigit := by
  simp [isDigit, Char.isDigit, Char.le_def]

/-- A number of at least one digit is printed with a first digit other than `0`. -/
theorem toDigits_head (n : Nat) (h : 0 < n) :
    ∃ c ds, Nat.toDigits 10 n = c :: ds ∧ c ≠ '0' := by
  induction n using Nat.strongRecOn with
  | _ n ih =>
    by_cases hn : n < 10
    · exact ⟨n.digitChar, [], Nat.toDigits_of_lt_base hn, by simp; omega⟩
    · -- The first digit of `n` is the first digit of `n / 10`.
      obtain ⟨c, ds, he, hc⟩ := ih (n / 10) (by omega) (by omega)
      refine ⟨c, ds ++ [(n % 10).digitChar], ?_, hc⟩
      rw [Nat.toDigits_of_base_le (by decide) (by omega), he]
      rfl

/-- Folding digits only makes a number larger. -/
theorem le_ofDigitChars (l : List Char) (init : Nat) : init ≤ Nat.ofDigitChars 10 l init := by
  rw [Nat.ofDigitChars_eq_ofDigitChars_zero]
  have : 0 < 10 ^ l.length := Nat.pow_pos (by decide)
  have : init ≤ 10 ^ l.length * init := Nat.le_mul_of_pos_left init this
  omega

theorem not_overflows {s d : Nat} (h : s * 10 + d ≤ u64Max) : overflows s d u64Max = false := by
  unfold overflows u64Max at *
  simp
  omega

/-- The significand loop of `number` folds digits exactly as long as no prefix passes the
largest 64-bit value. -/
theorem walk_digits (ds : List Char) (s : Nat) (hd : ∀ c ∈ ds, c.isDigit = true)
    (hs : Nat.ofDigitChars 10 ds s ≤ u64Max) :
    number.walk ds s 0 = (Nat.ofDigitChars 10 ds s, 0) := by
  induction ds generalizing s with
  | nil => rfl
  | cons d ds ih =>
    rw [Nat.ofDigitChars_cons, show '0'.toNat = 48 from rfl] at hs ⊢
    have hle := le_ofDigitChars ds (10 * s + (d.toNat - 48))
    have hno : overflows s (digitValue d) u64Max = false :=
      not_overflows (by simp only [digitValue]; omega)
    simp only [number.walk, Nat.lt_irrefl, if_false, hno, Bool.false_eq_true]
    rw [show s * 10 + digitValue d = 10 * s + (d.toNat - 48) by simp only [digitValue]; omega]
    exact ih _ (fun c hc => hd c (List.mem_cons_of_mem d hc)) hs

/-- The digits that start the text, up to a character that is no digit. -/
theorem takeWhile_digits {ds : List Char} (hd : ∀ c ∈ ds, c.isDigit = true) {x : Char}
    (hx : x.isDigit = false) (r : List Char) : (ds ++ x :: r).takeWhile isDigit = ds := by
  rw [List.takeWhile_append_of_pos (fun c hc => by rw [isDigit_eq]; exact hd c hc)]
  simp [isDigit_eq, hx]

theorem digits_apply {ds : List Char} (hd : ∀ c ∈ ds, c.isDigit = true) {x : Char}
    (hx : x.isDigit = false) (r : List Char) (d : Nat) :
    digits ⟨ds ++ x :: r, d⟩ = .ok ds ⟨x :: r, d⟩ := by
  simp [digits, bind_apply, EStateM.bind, get_apply, map_apply, EStateM.map, set_apply,
    takeWhile_digits hd hx]

/-- After the significand, a character that is no point and no exponent mark ends an unsigned
number. -/
theorem afterSignificand_end {x : Char} (hp : x ≠ '.') (he : x ≠ 'e') (hE : x ≠ 'E') (s : Nat)
    (r : List Char) (d : Nat) :
    afterSignificand true s ⟨x :: r, d⟩ = .ok (.posInt s.toUInt64) ⟨x :: r, d⟩ := by
  simp [afterSignificand, bind_apply, EStateM.bind, peekOrNull_cons, hp, he, hE, pure_apply]

/-- The digits of a number that fits 64 bits are read back to it, when a character that cannot
continue a number follows them. -/
theorem number_toDigits {n : Nat} (hn : n ≤ u64Max) {x : Char} (hx : x.isDigit = false)
    (hp : x ≠ '.') (he : x ≠ 'e') (hE : x ≠ 'E') (r : List Char) (d : Nat) :
    number true ⟨Nat.toDigits 10 n ++ x :: r, d⟩ = .ok (.posInt n.toUInt64) ⟨x :: r, d⟩ := by
  rcases Nat.eq_zero_or_pos n with rfl | hpos
  · -- Zero is the single digit `0`, which no digit may follow.
    simp [number, Nat.toDigits_zero, bind_apply, EStateM.bind, next_cons, peekOrNull_cons,
      isDigit_eq, hx, afterSignificand_end hp he hE]
  · obtain ⟨c, ds, hcd, hc⟩ := toDigits_head n hpos
    have hdig : ∀ c' ∈ c :: ds, c'.isDigit = true := fun c' h =>
      Nat.isDigit_of_mem_toDigits (by decide) (by decide) (hcd ▸ h)
    have hval : Nat.ofDigitChars 10 ds (digitValue c) = n := by
      have := Nat.ofDigitChars_ten_toDigits (n := n)
      rw [hcd, Nat.ofDigitChars_cons] at this
      simpa [digitValue] using this
    have hds : ∀ c' ∈ ds, c'.isDigit = true := fun c' h => hdig c' (List.mem_cons_of_mem c h)
    have hwalk := walk_digits ds (digitValue c) hds (by rw [hval]; exact hn)
    rw [hval] at hwalk
    rw [hcd, List.cons_append]
    simp [number, bind_apply, EStateM.bind, next_cons, hc, isDigit_eq, hdig c (by simp),
      get_apply, takeWhile_digits hds hx, hwalk, digits_apply hds hx,
      afterSignificand_end hp he hE]

/-! ## Readers that succeed -/

theorem tryCatch_ok {α : Type} {x : Reader α} {h : Fault → Reader α} {s s' : Cursor} {v : α}
    (hx : x s = .ok v s') : tryCatch x h s = .ok v s' := by
  show EStateM.tryCatch x h s = _
  -- unfolded by its definition: its equation lemma is not generated here
  delta EStateM.tryCatch
  simp only [hx]

theorem placed_ok {α : Type} {x : Reader α} {s s' : Cursor} {v : α} (hx : x s = .ok v s') :
    placed x s = .ok v s' :=
  tryCatch_ok hx

theorem attempt_ok {α : Type} {x : Reader α} {s s' : Cursor} {v : α} (hx : x s = .ok v s') :
    attempt x s = .ok (.ok v) s' :=
  tryCatch_ok (by simp [map_apply, EStateM.map, hx])

/-- A reader that succeeds hands its value and cursor to the rest of the block. -/
theorem bind_ok {α β : Type} {x : Reader α} {f : α → Reader β} {s s' : Cursor} {v : α}
    (hx : x s = .ok v s') : (x >>= f) s = f v s' := by
  simp [bind_apply, EStateM.bind, hx]

end Reader

/-! ## The writer's text -/

theorem writeMembers_single (k : String) (v : Value) :
    (writeMembers [(k, v)]).toList = (quote k).toList ++ ':' :: v.write.toList := by
  simp [writeMembers]

theorem writeMembers_cons (k : String) (v : Value) (w : String × Value)
    (rest : List (String × Value)) :
    (writeMembers ((k, v) :: w :: rest)).toList =
      (quote k).toList ++ ':' :: (v.write.toList ++ ',' :: (writeMembers (w :: rest)).toList) := by
  simp [writeMembers]

/-- A number the writer holds as an unsigned 64-bit integer is printed as its decimal digits. -/
theorem write_nat {n : Nat} (h : n ≤ Reader.u64Max) :
    (Value.nat n).write.toList = Nat.toDigits 10 n := by
  have hn : n.toUInt64.toNat = n := by unfold Reader.u64Max at h; simp; omega
  simp [Value.nat, Value.write, Number.write, hn, toString, Nat.repr]

namespace Decode

open Reader

/-- Blanks before a value are skipped to its first character. -/
theorem start_blanks {pre : List Char} (hpre : ∀ ch ∈ pre, isBlank ch = true) {c : Char}
    (hc : isBlank c = false) (r : List Char) (d : Nat) :
    start ⟨pre ++ c :: r, d⟩ = .ok c ⟨c :: r, d⟩ := by
  have hdrop : (pre ++ c :: r).dropWhile isBlank = c :: r := by
    rw [List.dropWhile_append_of_pos hpre, List.dropWhile_cons_of_neg (by simp [hc])]
  simp [start, skipBlank, bind_apply, EStateM.bind, modify_apply, hdrop, peek_cons, pure_apply]

theorem start_cons {c : Char} (h : isBlank c = false) (r : List Char) (d : Nat) :
    start ⟨c :: r, d⟩ = .ok c ⟨c :: r, d⟩ :=
  start_blanks (by simp : ∀ ch ∈ ([] : List Char), isBlank ch = true) h r d

/-- A quoted text is read back to the text. -/
theorem string_quote (s : String) (r : List Char) (d : Nat) :
    string ⟨(quote s).toList ++ r, d⟩ = .ok s ⟨r, d⟩ := by
  simp only [quote_toList, List.cons_append, List.append_assoc]
  apply placed_ok
  simp [bind_apply, EStateM.bind, start_cons (show isBlank '"' = false by decide), bump_cons,
    stringBody_quote]

/-- `null` is read as an absent value. -/
theorem option_null {α : Type} (dec : Reader α) (r : List Char) (d : Nat) :
    option dec ⟨'n' :: 'u' :: 'l' :: 'l' :: r, d⟩ = .ok none ⟨r, d⟩ := by
  simp [option, bind_apply, EStateM.bind, skipBlank_cons (show isBlank 'n' = false by decide),
    bump_cons, literal, next_cons, pure_apply]

/-- A value that does not start with `n` is read by the decoder of the value. -/
theorem option_some {α : Type} {dec : Reader α} {c : Char} {r : List Char} {d : Nat}
    {s' : Cursor} {v : α} (hb : isBlank c = false) (hn : c ≠ 'n')
    (hv : dec ⟨c :: r, d⟩ = .ok v s') : option dec ⟨c :: r, d⟩ = .ok (some v) s' := by
  simp [option, bind_apply, EStateM.bind, skipBlank_cons hb, hn, map_apply, EStateM.map, hv]

/-- An optional text, written as a quoted text or as null, is read back. -/
theorem option_optString (o : Option String) (r : List Char) (d : Nat) :
    option string ⟨(Value.optString o).write.toList ++ r, d⟩ = .ok o ⟨r, d⟩ := by
  cases o with
  | none => exact option_null string r d
  | some s =>
    have h := string_quote s r d
    simp only [quote_toList, List.cons_append] at h
    simp only [Value.optString, Value.write, quote_toList, List.cons_append]
    exact option_some (by decide) (by decide) h

theorem isBlank_of_isDigit {c : Char} (h : c.isDigit = true) : isBlank c = false := by
  simp [Char.isDigit] at h
  simp only [isBlank, Bool.or_eq_false_iff, decide_eq_false_iff_not]
  refine ⟨⟨⟨?_, ?_⟩, ?_⟩, ?_⟩ <;> rintro rfl <;> simp at h

/-- A comma and a closing brace, which follow every value inside an object, end a number. -/
theorem separator_ends {x : Char} (hx : x = ',' ∨ x = '}') :
    x.isDigit = false ∧ x ≠ '.' ∧ x ≠ 'e' ∧ x ≠ 'E' := by
  rcases hx with rfl | rfl <;> decide

/-- The digits of a number up to `hi` are read back to it by the integer decoder. -/
theorem integer_toDigits {n : Nat} {lo hi : Int} (name : String) (hn : (n : Int) ≤ hi)
    (hn' : n ≤ u64Max) {x : Char} (hx : x = ',' ∨ x = '}') (r : List Char) (d : Nat) :
    integer lo hi name ⟨Nat.toDigits 10 n ++ x :: r, d⟩ = .ok n ⟨x :: r, d⟩ := by
  obtain ⟨hdx, hp, he, hE⟩ := separator_ends hx
  have hnum := number_toDigits hn' hdx hp he hE r d
  obtain ⟨c, ds, hcd⟩ : ∃ c ds, Nat.toDigits 10 n = c :: ds :=
    match h : Nat.toDigits 10 n with
    | [] => absurd h Nat.toDigits_ne_nil
    | c :: ds => ⟨c, ds, rfl⟩
  have hc : c.isDigit = true := Nat.isDigit_of_mem_toDigits (show 0 < 10 by decide)
    (show 10 ≤ 10 by decide) (by rw [hcd]; exact List.mem_cons_self)
  have hm : c ≠ '-' := by
    rintro rfl
    simp at hc
  have hfit : n.toUInt64.toNat = n := by
    unfold u64Max at hn'
    simp
    omega
  rw [hcd, List.cons_append] at hnum
  rw [hcd]
  apply placed_ok
  simp [bind_apply, EStateM.bind, start_cons (isBlank_of_isDigit hc), hm, isDigit_eq, hc, hnum,
    integer.check, hfit, hn, pure_apply]

/-- The digits of a 16-bit number are read back to it, before a comma or a closing brace. -/
theorem u16_toDigits (n : UInt16) {x : Char} (hx : x = ',' ∨ x = '}') (r : List Char)
    (d : Nat) : u16 ⟨Nat.toDigits 10 n.toNat ++ x :: r, d⟩ = .ok n.toNat ⟨x :: r, d⟩ := by
  have hlt := n.toNat_lt
  have hi : integer 0 65535 "u16" ⟨Nat.toDigits 10 n.toNat ++ x :: r, d⟩ =
      .ok (n.toNat : Int) ⟨x :: r, d⟩ :=
    integer_toDigits "u16" (by omega) (by unfold u64Max; omega) hx r d
  simp [u16, bind_apply, EStateM.bind, hi, pure_apply]

/-! ## Objects and variants -/

theorem colon_cons (r : List Char) (d : Nat) : colon ⟨':' :: r, d⟩ = .ok () ⟨r, d⟩ := by
  simp [colon, bind_apply, EStateM.bind, skipBlank_cons (show isBlank ':' = false by decide),
    bump_cons]

theorem closeObject_cons (r : List Char) (d : Nat) :
    closeObject ⟨'}' :: r, d⟩ = .ok () ⟨r, d⟩ := by
  simp [closeObject, bind_apply, EStateM.bind, skipBlank_cons (show isBlank '}' = false by decide),
    bump_cons]

theorem nextKey_close (first : Bool) (r : List Char) (d : Nat) :
    nextKey first ⟨'}' :: r, d⟩ = .ok none ⟨'}' :: r, d⟩ := by
  simp [nextKey, bind_apply, EStateM.bind, skipBlank_cons (show isBlank '}' = false by decide),
    pure_apply]

/-- The key of the first member, or of a later one after its comma, is read back. -/
theorem nextKey_quote (first : Bool) (k : String) (r : List Char) (d : Nat) :
    nextKey first ⟨(if first then [] else [',']) ++ ((quote k).toList ++ r), d⟩ =
      .ok (some k) ⟨r, d⟩ := by
  have hq : isBlank '"' = false := by decide
  simp only [quote_toList, List.cons_append, List.append_assoc]
  cases first
  · simp [nextKey, bind_apply, EStateM.bind, skipBlank_cons (show isBlank ',' = false by decide),
      skipBlank_cons hq, bump_cons, map_apply, EStateM.map, stringBody_quote]
  · simp [nextKey, bind_apply, EStateM.bind, skipBlank_cons hq, bump_cons, map_apply,
      EStateM.map, stringBody_quote]

theorem enter_cons {d : Nat} (hd : 1 < d) (c : Char) (r : List Char) :
    enter ⟨c :: r, d⟩ = .ok () ⟨r, d - 1⟩ := by
  have : ¬d ≤ 1 := by omega
  simp [enter, bind_apply, EStateM.bind, get_apply, this, set_apply]

theorem leave_apply (r : List Char) (d : Nat) : leave ⟨r, d⟩ = .ok () ⟨r, d + 1⟩ := rfl

/-- One member of an object: its key names a field not read yet, whose reader reads the
member's value. -/
theorem go_member {σ : Type} {fields : List (Field σ)} {fuel : Nat} (first : Bool)
    {seen : List String} {draft draft' : σ} {f : Field σ} {k : String} {value r : List Char}
    {d : Nat} (hf : fields.find? (fun f => f.names.contains k) = some f)
    (hs : seen.contains f.name = false)
    (hread : f.read draft ⟨value ++ r, d⟩ = .ok draft' ⟨r, d⟩) :
    fieldsFromObject.go fields (fuel + 1) first seen draft
        ⟨(if first then [] else [',']) ++ ((quote k).toList ++ ':' :: (value ++ r)), d⟩ =
      fieldsFromObject.go fields fuel false (f.name :: seen) draft' ⟨r, d⟩ := by
  have hk := nextKey_quote first k (':' :: (value ++ r)) d
  -- the reader asks membership in the decidable form simp normalises to
  simp at hf hs
  simp [fieldsFromObject.go, bind_apply, EStateM.bind, hk, hf, hs, colon_cons, hread]

/-- A member whose key names no field has its value skipped. -/
theorem go_unknown {σ : Type} {fields : List (Field σ)} {fuel : Nat} (first : Bool)
    {seen : List String} {draft : σ} {k : String} {value r : List Char} {d : Nat}
    (hf : fields.find? (fun f => f.names.contains k) = none)
    (hskip : skipValue ⟨value ++ r, d⟩ = .ok () ⟨r, d⟩) :
    fieldsFromObject.go fields (fuel + 1) first seen draft
        ⟨(if first then [] else [',']) ++ ((quote k).toList ++ ':' :: (value ++ r)), d⟩ =
      fieldsFromObject.go fields fuel false seen draft ⟨r, d⟩ := by
  have hk := nextKey_quote first k (':' :: (value ++ r)) d
  -- the reader asks membership in the decidable form simp normalises to
  have hf' : fields.find? (fun f => decide (k ∈ f.names)) = none := by simpa using hf
  simp [fieldsFromObject.go, bind_apply, EStateM.bind, hk, hf', colon_cons, hskip]

/-- A field that reads its value with `dec` and stores it into the draft with `g`. -/
theorem read_store {σ α : Type} {name : String} {aliases : List String}
    {required positional : Bool} {dec : Reader α} {g : σ → α → σ} {draft : σ} {s s' : Cursor}
    {v : α} (h : dec s = .ok v s') :
    ({ name, aliases, read := fun d => do return g d (← dec), required, positional } :
      Field σ).read draft s = .ok (g draft v) s' :=
  bind_ok h

section Members

variable {σ : Type} {fields : List (Field σ)} {fuel : Nat} {seen : List String} {draft draft' : σ}
  {f : Field σ} {k : String} {value r : List Char} {d : Nat}

/-- The first member of an object, with no comma before it. -/
theorem go_first (hf : fields.find? (fun f => f.names.contains k) = some f)
    (hs : seen.contains f.name = false)
    (hread : f.read draft ⟨value ++ r, d⟩ = .ok draft' ⟨r, d⟩) :
    fieldsFromObject.go fields (fuel + 1) true seen draft
        ⟨(quote k).toList ++ ':' :: (value ++ r), d⟩ =
      fieldsFromObject.go fields fuel false (f.name :: seen) draft' ⟨r, d⟩ := by
  simpa using go_member true hf hs hread

/-- A later member of an object, after the comma that separates it from the one before. -/
theorem go_next (hf : fields.find? (fun f => f.names.contains k) = some f)
    (hs : seen.contains f.name = false)
    (hread : f.read draft ⟨value ++ r, d⟩ = .ok draft' ⟨r, d⟩) :
    fieldsFromObject.go fields (fuel + 1) false seen draft
        ⟨',' :: ((quote k).toList ++ ':' :: (value ++ r)), d⟩ =
      fieldsFromObject.go fields fuel false (f.name :: seen) draft' ⟨r, d⟩ := by
  simpa using go_member false hf hs hread

end Members

/-- The closing brace ends the members; it stays for the caller to close. -/
theorem go_close {σ : Type} (fields : List (Field σ)) (fuel : Nat) (first : Bool)
    (seen : List String) (draft : σ) (r : List Char) (d : Nat) :
    fieldsFromObject.go fields (fuel + 1) first seen draft ⟨'}' :: r, d⟩ =
      .ok (draft, seen) ⟨'}' :: r, d⟩ := by
  simp [fieldsFromObject.go, bind_apply, EStateM.bind, nextKey_close, pure_apply]

/-- The members of an object are read into the draft when every required field was among
them: `n` members, read one round of the reader's fuel each into `v`, naming the fields
`seen`. -/
theorem fieldsFromObject_apply {σ : Type} {fields : List (Field σ)} {draft : σ}
    {text r : List Char} {d : Nat} (n : Nat) (v : σ) (seen : List String) (hn : n ≤ text.length)
    (hgo : ∀ fuel, fieldsFromObject.go fields (fuel + n + 1) true [] draft ⟨text, d⟩ =
      .ok (v, seen) ⟨r, d⟩)
    (hreq : fields.find? (fun f => f.required && !seen.contains f.name) = none) :
    fieldsFromObject fields draft ⟨text, d⟩ = .ok v ⟨r, d⟩ := by
  -- the reader's fuel is the length of the text, which covers the `n` members
  have hgo' := hgo (text.length - n)
  rw [show text.length - n + n = text.length by omega] at hgo'
  have hreq' : fields.find? (fun f => f.required && !decide (f.name ∈ seen)) = none := by
    simpa using hreq
  simp [fieldsFromObject, bind_apply, EStateM.bind, get_apply, hgo', hreq', pure_apply]

/-- A record written as an object is read after the blanks before it. -/
theorem record_blanks {σ : Type} (what : String) {fields : List (Field σ)} {draft v : σ}
    {pre body r : List Char} {d : Nat} (hpre : ∀ ch ∈ pre, isBlank ch = true) (hd : 1 < d)
    (hbody : fieldsFromObject fields draft ⟨body ++ '}' :: r, d - 1⟩ =
      .ok v ⟨'}' :: r, d - 1⟩) :
    record what fields draft ⟨pre ++ '{' :: (body ++ '}' :: r), d⟩ = .ok v ⟨r, d⟩ := by
  have hd' : d - 1 + 1 = d := by omega
  apply placed_ok
  simp [bind_apply, EStateM.bind, start_blanks hpre (show isBlank '{' = false by decide), within,
    enter_cons hd, attempt_ok hbody, leave_apply, hd', attempt_ok (closeObject_cons r d),
    pure_apply]

/-- A record written as an object is read from its members, one level deeper. -/
theorem record_object {σ : Type} (what : String) {fields : List (Field σ)} {draft v : σ}
    {body r : List Char} {d : Nat} (hd : 1 < d)
    (hbody : fieldsFromObject fields draft ⟨body ++ '}' :: r, d - 1⟩ =
      .ok v ⟨'}' :: r, d - 1⟩) :
    record what fields draft ⟨'{' :: (body ++ '}' :: r), d⟩ = .ok v ⟨r, d⟩ :=
  record_blanks what (by simp : ∀ ch ∈ ([] : List Char), isBlank ch = true) hd hbody

/-- A variant written as a one-member object is read from its tag and its content, one level
deeper. -/
theorem variant_object {α : Type} {known : List String} {withContent : String → Reader α}
    {bare : String → Reader α} {t : String} {content r : List Char} {d : Nat} {v : α}
    (hd : 1 < d) (ht : known.contains t = true)
    (hc : withContent t ⟨content ++ '}' :: r, d - 1⟩ = .ok v ⟨'}' :: r, d - 1⟩) :
    variant known withContent bare ⟨'{' :: ((quote t).toList ++ ':' :: (content ++ '}' :: r)), d⟩ =
      .ok v ⟨r, d⟩ := by
  have hd' : d - 1 + 1 = d := by omega
  have ht' : t ∈ known := by simpa using ht
  have hname : variantName known ⟨(quote t).toList ++ ':' :: content ++ '}' :: r, d - 1⟩ =
      .ok t ⟨':' :: content ++ '}' :: r, d - 1⟩ := by
    apply placed_ok
    simp only [quote_toList, List.cons_append, List.append_assoc]
    simp [bind_apply, EStateM.bind, start_cons (show isBlank '"' = false by decide), bump_cons,
      stringBody_quote, ht', pure_apply]
  simp only [List.append_assoc, List.cons_append] at hname hc ⊢
  simp [variant, bind_apply, EStateM.bind, skipBlank_cons (show isBlank '{' = false by decide),
    enter_cons hd, hname, colon_cons, hc, leave_apply, hd',
    skipBlank_cons (show isBlank '}' = false by decide), bump_cons, map_apply, EStateM.map]

/-- A reader that stops before trailing blanks reads the whole text. -/
theorem run_blanks {α : Type} {dec : Reader α} {text : String} {v : α} {post : List Char}
    (hpost : ∀ ch ∈ post, isBlank ch = true) (h : dec ⟨text.toList, 128⟩ = .ok v ⟨post, 128⟩) :
    run dec text = .ok v := by
  have hdrop : post.dropWhile isBlank = [] := by
    have h : (post ++ []).dropWhile isBlank = ([] : List Char).dropWhile isBlank :=
      List.dropWhile_append_of_pos hpost
    simpa using h
  simp [run, EStateM.run, bind_apply, EStateM.bind, h, skipBlank, modify_apply, peek,
    get_apply, pure_apply, hdrop]

/-- A whole text is read when the decoder reads all of it at the starting depth. -/
theorem run_ok {α : Type} {dec : Reader α} {text : String} {v : α}
    (h : dec ⟨text.toList, 128⟩ = .ok v ⟨[], 128⟩) : run dec text = .ok v :=
  run_blanks (by simp) h

end Decode

end LiveViewer.Json
