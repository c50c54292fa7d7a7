import LiveViewer.Proofs.Json.ReadBack

/-!
# Skipping a compact JSON value

A record reader steps over the members it does not know with `skipValue`, a loop over the
states of `Skip`: before a value, or after one inside the containers still open. This module
shows that the loop steps over exactly one value written compactly, whatever it holds and
however deeply it nests (`skipValue_write`).

`Compact` is the syntax of such a value: literals, numbers with an optional minus sign, fraction
and exponent, strings escaped as `quote` escapes them, and arrays and objects written with no
blanks. The loop takes a fixed number of rounds for each value (`Compact.steps`), and stepping
over a value hands the skip on to where the container around it goes on (`resume`). The proof
follows the syntax: one lemma per state of the loop, and a mutual induction over values, the
items of an array and the members of an object (`go_write`, `go_items`, `go_members`).
-/

namespace LiveViewer.Json

/-- A JSON value as compact text writes it: no blanks, strings escaped as `quote` escapes them,
numbers as an optional minus sign, the integer part, the digits after the point (none when
there is no point) and a decimal exponent. -/
inductive Compact where
  | null
  | bool (b : Bool)
  | number (negative : Bool) (whole : Nat) (fraction : List (Fin 10)) (exponent : Option Int)
  | string (s : String)
  | array (items : List Compact)
  | object (members : List (String × Compact))

/-- The character of a decimal digit. -/
def digitChar (d : Fin 10) : Char := Char.ofNat (48 + d)

/-- The fraction of a number: a point and its digits, or nothing. -/
def fractionText (fraction : List (Fin 10)) : List Char :=
  if fraction = [] then [] else '.' :: fraction.map digitChar

/-- The exponent of a number: `e`, a minus sign when it is negative, and its digits. -/
def exponentText : Option Int → List Char
  | none => []
  | some e => 'e' :: ((if e < 0 then ['-'] else []) ++ Nat.toDigits 10 e.natAbs)

mutual

/-- The compact text of a value. -/
def Compact.write : Compact → List Char
  | .null => ['n', 'u', 'l', 'l']
  | .bool b => if b then ['t', 'r', 'u', 'e'] else ['f', 'a', 'l', 's', 'e']
  | .number negative whole fraction exponent =>
    (if negative then ['-'] else []) ++ Nat.toDigits 10 whole ++ fractionText fraction ++
      exponentText exponent
  | .string s => (quote s).toList
  | .array items => '[' :: Compact.writeItems true items ++ [']']
  | .object members => '{' :: Compact.writeMembers true members ++ ['}']

/-- Array items, each after a comma but the first when `first`. -/
def Compact.writeItems : Bool → List Compact → List Char
  | _, [] => []
  | first, v :: rest =>
    (if first then [] else [',']) ++ v.write ++ Compact.writeItems false rest

/-- Object members, each after a comma but the first when `first`. -/
def Compact.writeMembers : Bool → List (String × Compact) → List Char
  | _, [] => []
  | first, (k, v) :: rest =>
    (if first then [] else [',']) ++ (quote k).toList ++
      ':' :: (v.write ++ Compact.writeMembers false rest)

end

mutual

/-- The rounds of the skip loop that a value takes: one for a scalar, and for a container one to
open it, one to close it, and one after each of its values. -/
def Compact.steps : Compact → Nat
  | .array items => 2 + Compact.itemSteps items
  | .object members => 2 + Compact.memberSteps members
  | _ => 1

/-- The rounds that the items of an array take. -/
def Compact.itemSteps : List Compact → Nat
  | [] => 0
  | v :: rest => v.steps + 1 + Compact.itemSteps rest

/-- The rounds that the members of an object take. -/
def Compact.memberSteps : List (String × Compact) → Nat
  | [] => 0
  | (_, v) :: rest => v.steps + 1 + Compact.memberSteps rest

end

namespace Decode

open Reader

/-! ## Strings -/

/-- The short escapes that the writer uses pass the escape check. -/
theorem skipEscape_short {x : Char} (hx : x ∈ ['"', '\\', 'n', 'r', 't', 'b', 'f'])
    (r : List Char) (d : Nat) : skipEscape ⟨x :: r, d⟩ = .ok () ⟨r, d⟩ := by
  simp only [List.mem_cons, List.not_mem_nil, or_false] at hx
  rcases hx with rfl | rfl | rfl | rfl | rfl | rfl | rfl <;> rfl

/-- The `\u00XX` escape of a control character passes the escape check. -/
theorem skipEscape_control {c : Char} (h : c.toNat < 0x20) (r : List Char) (d : Nat) :
    skipEscape ⟨'u' :: '0' :: '0' :: hexDigit (c.toNat / 16) :: hexDigit (c.toNat % 16) :: r, d⟩ =
      .ok () ⟨r, d⟩ := by
  have hhi : c.toNat / 16 < 16 := by omega
  have hlo : c.toNat % 16 < 16 := Nat.mod_lt _ (by decide)
  have h4 := hex4_cons (show hexValue '0' = some 0 by decide)
    (show hexValue '0' = some 0 by decide) (hexValue_hexDigit _ hhi) (hexValue_hexDigit _ hlo)
    (by decide) (by decide) (hexDigit_utf8Size _ hhi) (hexDigit_utf8Size _ hlo) r d
  simp [skipEscape, bind_apply, EStateM.bind, next_cons, map_apply, EStateM.map, h4]

theorem skipString_go_backslash {fuel : Nat} {r r' : List Char} {d : Nat}
    (h : skipEscape ⟨r, d⟩ = .ok () ⟨r', d⟩) :
    skipString.go (fuel + 1) ⟨'\\' :: r, d⟩ = skipString.go fuel ⟨r', d⟩ := by
  simp [skipString.go, bind_apply, EStateM.bind, peek_cons, bump_cons, h]

/-- A character written as a backslash and one letter is stepped over. -/
theorem skipString_go_short {fuel : Nat} {r : List Char} {d : Nat} {c x : Char}
    (hc : (escapeChar c).toList = ['\\', x]) (hx : x ∈ ['"', '\\', 'n', 'r', 't', 'b', 'f']) :
    skipString.go (fuel + 1) ⟨(escapeChar c).toList ++ r, d⟩ = skipString.go fuel ⟨r, d⟩ := by
  rw [hc]
  exact skipString_go_backslash (skipEscape_short hx r d)

/-- One round of the string skipper steps over the escape of one character. -/
theorem skipString_go_escapeChar (fuel : Nat) (c : Char) (r : List Char) (d : Nat) :
    skipString.go (fuel + 1) ⟨(escapeChar c).toList ++ r, d⟩ = skipString.go fuel ⟨r, d⟩ := by
  by_cases h₁ : c = '"'
  · subst h₁
    exact skipString_go_short (x := '"') (by simp [escapeChar]) (by simp)
  by_cases h₂ : c = '\\'
  · subst h₂
    exact skipString_go_short (x := '\\') (by simp [escapeChar]) (by simp)
  by_cases h₃ : c = '\n'
  · subst h₃
    exact skipString_go_short (x := 'n') (by simp [escapeChar]) (by simp)
  by_cases h₄ : c = '\r'
  · subst h₄
    exact skipString_go_short (x := 'r') (by simp [escapeChar]) (by simp)
  by_cases h₅ : c = '\t'
  · subst h₅
    exact skipString_go_short (x := 't') (by simp [escapeChar]) (by simp)
  by_cases h₆ : c.toNat = 8
  · obtain rfl : c = Char.ofNat 8 := by rw [← h₆, Char.ofNat_toNat]
    exact skipString_go_short (x := 'b') (by simp [escapeChar]) (by simp)
  by_cases h₇ : c.toNat = 12
  · obtain rfl : c = Char.ofNat 12 := by rw [← h₇, Char.ofNat_toNat]
    exact skipString_go_short (x := 'f') (by simp [escapeChar]) (by simp)
  by_cases h₈ : c.toNat < 0x20
  · -- any other control character goes through a `\u` escape
    simp only [escapeChar, h₁, h₂, h₃, h₄, h₅, h₆, h₇, h₈, if_false, if_true,
      String.toList_ofList, List.cons_append]
    exact skipString_go_backslash (skipEscape_control h₈ r d)
  · simp [escapeChar, h₁, h₂, h₃, h₄, h₅, h₆, h₇, h₈, skipString.go, bind_apply, EStateM.bind,
      peek_cons, bump_cons]

/-- The string skipper steps over the escapes of `cs` and the closing quote, given a round of
fuel for each character. -/
theorem skipString_go_escaped (cs : List Char) (fuel : Nat) (r : List Char) (d : Nat)
    (hfuel : cs.length < fuel) :
    skipString.go fuel ⟨(cs.flatMap fun c => (escapeChar c).toList) ++ '"' :: r, d⟩ =
      .ok () ⟨r, d⟩ := by
  induction cs generalizing fuel with
  | nil =>
    obtain ⟨f, rfl⟩ : ∃ f, fuel = f + 1 := ⟨fuel - 1, by simp at hfuel; omega⟩
    simp [skipString.go, bind_apply, EStateM.bind, peek_cons, bump_cons]
  | cons c cs ih =>
    obtain ⟨f, rfl⟩ : ∃ f, fuel = f + 1 := ⟨fuel - 1, by simp at hfuel; omega⟩
    rw [List.flatMap_cons, List.append_assoc, skipString_go_escapeChar,
      ih f (by simp at hfuel; omega)]

/-- Every character is written as at least one. -/
theorem length_le_escapes (cs : List Char) :
    cs.length ≤ (cs.flatMap fun c => (escapeChar c).toList).length := by
  induction cs with
  | nil => simp
  | cons c cs ih =>
    have hc : 0 < (escapeChar c).toList.length := List.length_pos_iff.2 (escapeChar_ne_nil c)
    rw [List.flatMap_cons, List.length_append, List.length_cons]
    omega

/-- A quoted text is skipped up to and including its closing quote. -/
theorem skipString_quote (s : String) (r : List Char) (d : Nat) :
    skipString ⟨escaped s ++ '"' :: r, d⟩ = .ok () ⟨r, d⟩ := by
  have hlen := length_le_escapes s.toList
  simp only [skipString, bind_apply, EStateM.bind, get_apply]
  rw [escaped, skipString_go_escaped _ _ _ _
    (by simp only [List.length_append, List.length_cons]; omega)]

/-! ## Numbers -/

/-- A character that closes a value inside a container. -/
def Closer (x : Char) : Prop := x = ',' ∨ x = ']' ∨ x = '}'

/-- Text that starts with a closer: what follows a value inside a container. -/
def Follows (t : List Char) : Prop := ∃ x r, t = x :: r ∧ Closer x

theorem Closer.ends {x : Char} (hx : Closer x) :
    x.isDigit = false ∧ x ≠ '.' ∧ x ≠ 'e' ∧ x ≠ 'E' ∧ isBlank x = false := by
  rcases hx with rfl | rfl | rfl <;> decide

theorem digitChar_isDigit (d : Fin 10) : (digitChar d).isDigit = true := by
  revert d
  decide

theorem toDigits_isDigit (n : Nat) : ∀ c ∈ Nat.toDigits 10 n, c.isDigit = true :=
  fun _ h => Nat.isDigit_of_mem_toDigits (by decide) (by decide) h

theorem toDigits_cons (n : Nat) : ∃ c ds, Nat.toDigits 10 n = c :: ds :=
  match h : Nat.toDigits 10 n with
  | [] => absurd h Nat.toDigits_ne_nil
  | c :: ds => ⟨c, ds, rfl⟩

/-- A first digit other than `0` lies between `1` and `9`. -/
theorem one_le_of_isDigit {c : Char} (h : c.isDigit = true) (hc0 : c ≠ '0') :
    '1' ≤ c ∧ c ≤ '9' := by
  have hne : c.toNat ≠ 48 := fun h' => hc0 (Char.toNat_inj.1 h')
  simp only [Char.isDigit, Bool.and_eq_true, decide_eq_true_eq, Char.le_def,
    UInt32.le_iff_toNat_le] at h ⊢
  have h0 : ('0' : Char).val.toNat = 48 := rfl
  have h1 : ('1' : Char).val.toNat = 49 := rfl
  have h9 : ('9' : Char).val.toNat = 57 := rfl
  simp only [Char.toNat] at hne
  omega

/-- The number checker steps over the integer part, fraction and exponent of a number, up to
the closer after it. -/
theorem skipNumber_unsigned {x : Char} (hx : Closer x) (r : List Char) (d : Nat) (w : Nat)
    (f : List (Fin 10)) (e : Option Int) :
    skipNumber ⟨Nat.toDigits 10 w ++ fractionText f ++ exponentText e ++ x :: r, d⟩ =
      .ok () ⟨x :: r, d⟩ := by
  obtain ⟨hxd, hxp, hxe, hxE, -⟩ := hx.ends
  unfold skipNumber
  extract_lets jpDigits exponent jpFrac jpTail
  -- the exponent's digits, after its mark and sign
  have hDigits : ∀ n, jpDigits () ⟨Nat.toDigits 10 n ++ x :: r, d⟩ = .ok () ⟨x :: r, d⟩ := by
    intro n
    obtain ⟨c, ds, hcd⟩ := toDigits_cons n
    have hdig := toDigits_isDigit n
    rw [hcd] at hdig
    have hc : isDigit c = true := by rw [isDigit_eq]; exact hdig c (by simp)
    have hds : ∀ c' ∈ ds, c'.isDigit = true := fun c' h => hdig c' (List.mem_cons_of_mem c h)
    rw [hcd, List.cons_append]
    simp [jpDigits, bind_apply, EStateM.bind, next_cons, hc, map_apply, EStateM.map,
      digits_apply hds hxd]
  have hExp : ∀ e', exponent ⟨exponentText (some e') ++ x :: r, d⟩ = .ok () ⟨x :: r, d⟩ := by
    intro e'
    simp only [exponentText, List.cons_append, List.append_assoc]
    by_cases hneg : e' < 0
    · simp [exponent, hneg, bind_apply, EStateM.bind, bump_cons, peekOrNull_cons, hDigits]
    · -- a nonnegative exponent starts with its first digit, which is no sign
      obtain ⟨c, ds, hcd⟩ := toDigits_cons e'.natAbs
      have hc : c.isDigit = true := toDigits_isDigit e'.natAbs c (by rw [hcd]; simp)
      have hsign : c ≠ '+' ∧ c ≠ '-' := by
        constructor <;> rintro rfl <;> simp at hc
      have hD := hDigits e'.natAbs
      rw [hcd, List.cons_append] at hD
      rw [hcd]
      simp [exponent, hneg, bind_apply, EStateM.bind, bump_cons, peekOrNull_cons, hsign, hD]
  have hFrac : jpFrac () ⟨exponentText e ++ x :: r, d⟩ = .ok () ⟨x :: r, d⟩ := by
    cases e with
    | none =>
      simp [jpFrac, exponentText, bind_apply, EStateM.bind, peekOrNull_cons, hxe, hxE, pure_apply]
    | some e' =>
      have := hExp e'
      simp only [exponentText, List.cons_append, List.append_assoc] at this ⊢
      simp [jpFrac, bind_apply, EStateM.bind, peekOrNull_cons, this]
  -- after the integer part: the fraction, then the exponent
  have hTail : jpTail () ⟨fractionText f ++ exponentText e ++ x :: r, d⟩ = .ok () ⟨x :: r, d⟩ := by
    by_cases hf : f = []
    · subst hf
      cases e with
      | none =>
        simp [jpTail, fractionText, exponentText, bind_apply, EStateM.bind, peekOrNull_cons, hxp,
          hxe, hxE, pure_apply]
      | some e' =>
        have := hExp e'
        simp only [exponentText, List.cons_append, List.append_assoc] at this
        simp [jpTail, fractionText, exponentText, bind_apply, EStateM.bind, peekOrNull_cons, this]
    · -- the fraction's digits stop at the exponent mark or at the closer
      obtain ⟨y, rest, hy, hyd⟩ : ∃ y rest, exponentText e ++ x :: r = y :: rest ∧
          y.isDigit = false := by
        cases e with
        | none => exact ⟨x, r, rfl, hxd⟩
        | some e' => exact ⟨'e', _, rfl, by decide⟩
      have hds : ∀ c ∈ f.map digitChar, c.isDigit = true := by
        simp only [List.mem_map]
        rintro c ⟨d', -, rfl⟩
        exact digitChar_isDigit d'
      have hD := digits_apply hds hyd rest d
      rw [← hy] at hD
      simp only [fractionText, hf, if_false, List.cons_append, List.append_assoc]
      simp [jpTail, bind_apply, EStateM.bind, peekOrNull_cons, bump_cons, hD, hf, hFrac]
  -- the integer part: a lone zero, or a first digit other than zero and the digits after it
  obtain ⟨y, rest, hy, hyd⟩ : ∃ y rest, fractionText f ++ exponentText e ++ x :: r = y :: rest ∧
      y.isDigit = false := by
    by_cases hf : f = []
    · cases e with
      | none => exact ⟨x, r, by simp [hf, fractionText, exponentText], hxd⟩
      | some e' =>
        exact ⟨'e', (if e' < 0 then ['-'] else []) ++ Nat.toDigits 10 e'.natAbs ++ x :: r,
          by simp [hf, fractionText, exponentText], by decide⟩
    · exact ⟨'.', f.map digitChar ++ exponentText e ++ x :: r, by simp [hf, fractionText],
        by decide⟩
  rcases Nat.eq_zero_or_pos w with rfl | hpos
  · have hyd' : isDigit y = false := by rw [isDigit_eq]; exact hyd
    have htext : Nat.toDigits 10 0 ++ fractionText f ++ exponentText e ++ x :: r =
        '0' :: y :: rest := by
      rw [← hy]
      simp [Nat.toDigits_zero]
    rw [hy] at hTail
    rw [htext]
    simp [bind_apply, EStateM.bind, peek_cons, bump_cons, peekOrNull_cons, hyd', hTail]
  · obtain ⟨c, ds, hcd, hc0⟩ := toDigits_head w hpos
    have hdig := toDigits_isDigit w
    rw [hcd] at hdig
    have hc := one_le_of_isDigit (hdig c (by simp)) hc0
    have hds : ∀ c' ∈ ds, c'.isDigit = true := fun c' h => hdig c' (List.mem_cons_of_mem c h)
    have hD := digits_apply hds hyd rest d
    rw [← hy] at hD
    rw [hcd]
    simp only [List.cons_append, List.append_assoc] at hD hTail ⊢
    simp [bind_apply, EStateM.bind, peek_cons, bump_cons, hc, hD, hTail]

/-! ## The start of a value -/

theorem skipOpen_null (r : List Char) (d : Nat) :
    skipOpen ⟨(Compact.null).write ++ r, d⟩ = .ok none ⟨r, d⟩ := by
  simp [Compact.write, skipOpen, bind_apply, EStateM.bind, start_cons (show isBlank 'n' = false by decide),
    bump_cons, literal, next_cons, pure_apply]

theorem skipOpen_bool (b : Bool) (r : List Char) (d : Nat) :
    skipOpen ⟨(Compact.bool b).write ++ r, d⟩ = .ok none ⟨r, d⟩ := by
  cases b
  · simp [Compact.write, skipOpen, bind_apply, EStateM.bind,
      start_cons (show isBlank 'f' = false by decide), bump_cons, literal, next_cons, pure_apply]
  · simp [Compact.write, skipOpen, bind_apply, EStateM.bind,
      start_cons (show isBlank 't' = false by decide), bump_cons, literal, next_cons, pure_apply]

theorem skipOpen_string (s : String) (r : List Char) (d : Nat) :
    skipOpen ⟨(Compact.string s).write ++ r, d⟩ = .ok none ⟨r, d⟩ := by
  simp only [Compact.write, quote_toList, List.cons_append, List.append_assoc]
  simp [skipOpen, bind_apply, EStateM.bind, start_cons (show isBlank '"' = false by decide),
    bump_cons, map_apply, EStateM.map, skipString_quote]

/-- A number that starts with a digit is handed to the number checker. -/
theorem skipOpen_digit {c : Char} (hc : c.isDigit = true) {r : List Char} {d : Nat} {s : Cursor}
    (h : skipNumber ⟨c :: r, d⟩ = .ok () s) : skipOpen ⟨c :: r, d⟩ = .ok none s := by
  have hc' : isDigit c = true := by rw [isDigit_eq]; exact hc
  simp only [skipOpen, bind_apply, EStateM.bind, start_cons (isBlank_of_isDigit hc)]
  split
  case h_8 => simp [hc', bind_apply, EStateM.bind, h, pure_apply]
  -- a digit is none of the characters that open the other kinds of value
  all_goals exact absurd hc (by decide)

theorem skipOpen_number {x : Char} (hx : Closer x) (negative : Bool) (w : Nat)
    (f : List (Fin 10)) (e : Option Int) (r : List Char) (d : Nat) :
    skipOpen ⟨(Compact.number negative w f e).write ++ x :: r, d⟩ = .ok none ⟨x :: r, d⟩ := by
  have hnum := skipNumber_unsigned hx r d w f e
  cases negative
  · -- the number starts with its first digit
    obtain ⟨c, ds, hcd⟩ := toDigits_cons w
    have hc : c.isDigit = true := toDigits_isDigit w c (by rw [hcd]; simp)
    simp only [Compact.write, hcd, List.cons_append, List.append_assoc] at hnum ⊢
    exact skipOpen_digit hc hnum
  · simp only [Compact.write, if_true, List.cons_append, List.nil_append, List.append_assoc]
      at hnum ⊢
    simp [skipOpen, bind_apply, EStateM.bind, start_cons (show isBlank '-' = false by decide),
      bump_cons, map_apply, EStateM.map, hnum]

theorem skipOpen_bracket (r : List Char) (d : Nat) :
    skipOpen ⟨'[' :: r, d⟩ = .ok (some .array) ⟨r, d⟩ := by
  simp [skipOpen, bind_apply, EStateM.bind, start_cons (show isBlank '[' = false by decide),
    map_apply, EStateM.map, bump_cons]

theorem skipOpen_brace (r : List Char) (d : Nat) :
    skipOpen ⟨'{' :: r, d⟩ = .ok (some .object) ⟨r, d⟩ := by
  simp [skipOpen, bind_apply, EStateM.bind, start_cons (show isBlank '{' = false by decide),
    map_apply, EStateM.map, bump_cons]

/-- Inside an object, a member's quoted key and its colon are stepped over. -/
theorem skipKey_object (k : String) (r : List Char) (d : Nat) :
    skipKey .object ⟨(quote k).toList ++ ':' :: r, d⟩ = .ok () ⟨r, d⟩ := by
  simp only [quote_toList, List.cons_append, List.append_assoc]
  simp [skipKey, bind_apply, EStateM.bind, skipBlank_cons (show isBlank '"' = false by decide),
    bump_cons, skipString_quote, skipBlank_cons (show isBlank ':' = false by decide)]

/-! ## The rounds of the loop -/

/-- Where the skip goes on after a whole value: it is done when no container is open, and
otherwise looks for a comma or the close of the innermost one. -/
def resume (fuel : Nat) : List Frame → Reader Unit
  | [] => pure ()
  | f :: opened => skipValue.go fuel (.after true f opened)

/-- A value that opens no container is stepped over in one round. -/
theorem go_value_scalar {fuel : Nat} {opened : List Frame} {s s' : Cursor}
    (h : skipOpen s = .ok none s') :
    skipValue.go (fuel + 1) (.value opened) s = resume fuel opened s' := by
  cases opened <;> simp [skipValue.go, bind_apply, EStateM.bind, h, resume]

/-- A bracket or brace opens a container, with no value read inside it yet. -/
theorem go_value_open {fuel : Nat} {opened : List Frame} {s s' : Cursor} {f : Frame}
    (h : skipOpen s = .ok (some f) s') :
    skipValue.go (fuel + 1) (.value opened) s = skipValue.go fuel (.after false f opened) s' := by
  simp [skipValue.go, bind_apply, EStateM.bind, h]

/-- The close of the innermost container ends it. -/
theorem go_after_close {fuel : Nat} {comma : Bool} {f : Frame} {opened : List Frame} {c : Char}
    (hc : closes f c = true) (r : List Char) (d : Nat) :
    skipValue.go (fuel + 1) (.after comma f opened) ⟨c :: r, d⟩ = resume fuel opened ⟨r, d⟩ := by
  cases f <;> simp only [closes, decide_eq_true_eq] at hc <;> subst hc <;>
    cases opened <;>
    simp [skipValue.go, bind_apply, EStateM.bind, skipBlank_cons (show isBlank ']' = false by decide),
      skipBlank_cons (show isBlank '}' = false by decide), closes, bump_cons, resume, pure_apply]

/-- After a value, a comma leads to the next one, after its key inside an object. -/
theorem go_after_comma {fuel : Nat} {f : Frame} {opened : List Frame} (r : List Char) (d : Nat) :
    skipValue.go (fuel + 1) (.after true f opened) ⟨',' :: r, d⟩ =
      (skipKey f >>= fun _ => skipValue.go fuel (.value (f :: opened))) ⟨r, d⟩ := by
  simp [skipValue.go, bind_apply, EStateM.bind, skipBlank_cons (show isBlank ',' = false by decide),
    bump_cons]

/-- Right after a container opens, anything but its close starts its first value. -/
theorem go_after_first {fuel : Nat} {f : Frame} {opened : List Frame} {c : Char}
    (hb : isBlank c = false) (hc : closes f c = false) (r : List Char) (d : Nat) :
    skipValue.go (fuel + 1) (.after false f opened) ⟨c :: r, d⟩ =
      (skipKey f >>= fun _ => skipValue.go fuel (.value (f :: opened))) ⟨c :: r, d⟩ := by
  simp [skipValue.go, bind_apply, EStateM.bind, skipBlank_cons hb, hc]

/-- A value's text starts with a character that is no blank and closes no array. -/
theorem write_head (v : Compact) : ∃ c r, v.write = c :: r ∧ isBlank c = false ∧ c ≠ ']' := by
  cases v with
  | null => exact ⟨'n', _, rfl, by decide, by decide⟩
  | bool b => cases b <;> exact ⟨_, _, rfl, by decide, by decide⟩
  | number negative w f e =>
    cases negative
    · obtain ⟨c, ds, hcd⟩ := toDigits_cons w
      have hc : c.isDigit = true := toDigits_isDigit w c (by rw [hcd]; simp)
      refine ⟨c, ds ++ fractionText f ++ exponentText e, by simp [Compact.write, hcd],
        isBlank_of_isDigit hc, ?_⟩
      rintro rfl
      simp at hc
    · exact ⟨'-', Nat.toDigits 10 w ++ fractionText f ++ exponentText e, by simp [Compact.write],
        by decide, by decide⟩
  | string s =>
    exact ⟨'"', escaped s ++ ['"'], by simp [Compact.write, quote_toList], by decide, by decide⟩
  | array items => exact ⟨'[', _, rfl, by decide, by decide⟩
  | object members => exact ⟨'{', _, rfl, by decide, by decide⟩

theorem follows_items (vs : List Compact) (rest : List Char) :
    Follows (Compact.writeItems false vs ++ ']' :: rest) := by
  cases vs with
  | nil => exact ⟨']', rest, rfl, .inr (.inl rfl)⟩
  | cons v vs =>
    exact ⟨',', v.write ++ Compact.writeItems false vs ++ ']' :: rest,
      by simp [Compact.writeItems], .inl rfl⟩

theorem follows_members (ms : List (String × Compact)) (rest : List Char) :
    Follows (Compact.writeMembers false ms ++ '}' :: rest) := by
  cases ms with
  | nil => exact ⟨'}', rest, rfl, .inr (.inr rfl)⟩
  | cons m ms =>
    exact ⟨',', (quote m.1).toList ++ ':' :: (m.2.write ++ Compact.writeMembers false ms) ++
      '}' :: rest, by simp [Compact.writeMembers], .inl rfl⟩

mutual

/-- The loop steps over a whole value in `v.steps` rounds and goes on where the containers
around it go on. -/
theorem go_write : ∀ (v : Compact) (fuel : Nat) (opened : List Frame) (rest : List Char)
    (d : Nat), Follows rest →
    skipValue.go (fuel + v.steps) (.value opened) ⟨v.write ++ rest, d⟩ =
      resume fuel opened ⟨rest, d⟩
  | .null, _, _, rest, d, _ => go_value_scalar (skipOpen_null rest d)
  | .bool b, _, _, rest, d, _ => go_value_scalar (skipOpen_bool b rest d)
  | .number negative w f e, _, _, _, d, ⟨_, r, rfl, hx⟩ =>
    go_value_scalar (skipOpen_number hx negative w f e r d)
  | .string s, _, _, rest, d, _ => go_value_scalar (skipOpen_string s rest d)
  | .array items, fuel, opened, rest, d, _ => by
    rw [show fuel + (Compact.array items).steps = fuel + Compact.itemSteps items + 1 + 1 by
      simp only [Compact.steps]; omega]
    simp only [Compact.write, List.cons_append, List.append_assoc]
    rw [go_value_open (skipOpen_bracket _ d)]
    exact go_items items true fuel opened rest d
  | .object members, fuel, opened, rest, d, _ => by
    rw [show fuel + (Compact.object members).steps = fuel + Compact.memberSteps members + 1 + 1 by
      simp only [Compact.steps]; omega]
    simp only [Compact.write, List.cons_append, List.append_assoc]
    rw [go_value_open (skipOpen_brace _ d)]
    exact go_members members true fuel opened rest d

/-- The loop steps over the items of an array and its closing bracket. -/
theorem go_items : ∀ (items : List Compact) (first : Bool) (fuel : Nat) (opened : List Frame)
    (rest : List Char) (d : Nat),
    skipValue.go (fuel + Compact.itemSteps items + 1) (.after (!first) .array opened)
        ⟨Compact.writeItems first items ++ ']' :: rest, d⟩ =
      resume fuel opened ⟨rest, d⟩
  | [], _, _, _, rest, d => go_after_close (by decide) rest d
  | v :: vs, first, fuel, opened, rest, d => by
    -- the item is stepped over inside the array, and the items after it from there
    have hv := go_write v (fuel + Compact.itemSteps vs + 1) (.array :: opened)
      (Compact.writeItems false vs ++ ']' :: rest) d (follows_items vs rest)
    have hvs := go_items vs false fuel opened rest d
    rw [show fuel + Compact.itemSteps (v :: vs) + 1 =
      fuel + Compact.itemSteps vs + 1 + v.steps + 1 by simp only [Compact.itemSteps]; omega]
    cases first with
    | false =>
      simp only [Compact.writeItems, Bool.false_eq_true, ↓reduceIte, List.cons_append,
        List.nil_append, List.append_assoc, Bool.not_false]
      rw [go_after_comma]
      simp only [bind_apply, EStateM.bind, skipKey, pure_apply]
      rw [hv]
      exact hvs
    | true =>
      obtain ⟨c, r, hcr, hb, hc⟩ := write_head v
      have hcl : closes .array c = false := by simpa [closes] using hc
      simp only [Compact.writeItems, ↓reduceIte, List.nil_append, List.append_assoc,
        Bool.not_true]
      rw [hcr, List.cons_append, go_after_first hb hcl, ← List.cons_append, ← hcr]
      simp only [bind_apply, EStateM.bind, skipKey, pure_apply]
      rw [hv]
      exact hvs

/-- The loop steps over the members of an object and its closing brace. -/
theorem go_members : ∀ (members : List (String × Compact)) (first : Bool) (fuel : Nat)
    (opened : List Frame) (rest : List Char) (d : Nat),
    skipValue.go (fuel + Compact.memberSteps members + 1) (.after (!first) .object opened)
        ⟨Compact.writeMembers first members ++ '}' :: rest, d⟩ =
      resume fuel opened ⟨rest, d⟩
  | [], _, _, _, rest, d => go_after_close (by decide) rest d
  | (k, v) :: ms, first, fuel, opened, rest, d => by
    -- the member's value is stepped over inside the object, and the members after it from there
    have hv := go_write v (fuel + Compact.memberSteps ms + 1) (.object :: opened)
      (Compact.writeMembers false ms ++ '}' :: rest) d (follows_members ms rest)
    have hms := go_members ms false fuel opened rest d
    have hkey := skipKey_object k (v.write ++ (Compact.writeMembers false ms ++ '}' :: rest)) d
    rw [show fuel + Compact.memberSteps ((k, v) :: ms) + 1 =
      fuel + Compact.memberSteps ms + 1 + v.steps + 1 by simp only [Compact.memberSteps]; omega]
    cases first with
    | false =>
      simp only [Compact.writeMembers, Bool.false_eq_true, ↓reduceIte, List.cons_append,
        List.nil_append, List.append_assoc, Bool.not_false]
      rw [go_after_comma]
      simp only [bind_apply, EStateM.bind, hkey]
      rw [hv]
      exact hms
    | true =>
      simp only [Compact.writeMembers, ↓reduceIte, List.nil_append, List.append_assoc,
        Bool.not_true]
      -- the first key opens with its quote, which closes nothing
      obtain ⟨r, hr⟩ : ∃ r, (quote k).toList = '"' :: r := ⟨_, quote_toList k⟩
      rw [hr, List.cons_append, go_after_first (by decide) (by decide), ← List.cons_append, ← hr]
      simp only [bind_apply, EStateM.bind, List.cons_append, List.append_assoc, hkey]
      rw [hv]
      exact hms

end

mutual

/-- A value takes fewer rounds than twice its length. -/
theorem steps_lt_length : ∀ v : Compact, v.steps < 2 * v.write.length
  | .null => by simp [Compact.steps, Compact.write]
  | .bool b => by cases b <;> simp [Compact.steps, Compact.write]
  | .number _ w _ _ => by
    obtain ⟨c, ds, hcd⟩ := toDigits_cons w
    simp [Compact.steps, Compact.write, hcd]
    omega
  | .string s => by
    simp [Compact.steps, Compact.write, quote_toList]
    omega
  | .array items => by
    have h := itemSteps_le items true
    simp only [Compact.steps, Compact.write, List.length_cons, List.length_append]
    omega
  | .object members => by
    have h := memberSteps_le members true
    simp only [Compact.steps, Compact.write, List.length_cons, List.length_append]
    omega

theorem itemSteps_le : ∀ (items : List Compact) (first : Bool),
    Compact.itemSteps items ≤ 2 * (Compact.writeItems first items).length
  | [], _ => by simp [Compact.itemSteps]
  | v :: vs, first => by
    have h₁ := steps_lt_length v
    have h₂ := itemSteps_le vs false
    cases first <;> simp [Compact.itemSteps, Compact.writeItems] <;> omega

theorem memberSteps_le : ∀ (members : List (String × Compact)) (first : Bool),
    Compact.memberSteps members ≤ 2 * (Compact.writeMembers first members).length
  | [], _ => by simp [Compact.memberSteps]
  | (k, v) :: ms, first => by
    have h₁ := steps_lt_length v
    have h₂ := memberSteps_le ms false
    cases first <;> simp [Compact.memberSteps, Compact.writeMembers, quote_toList] <;> omega

end

/-- A value written compactly is skipped exactly, up to the closer after it. -/
theorem skipValue_write (v : Compact) {rest : List Char} (hr : Follows rest) (d : Nat) :
    skipValue ⟨v.write ++ rest, d⟩ = .ok () ⟨rest, d⟩ := by
  -- the loop's fuel, twice the length of the text, covers the rounds the value takes
  have hlt := steps_lt_length v
  have hgo := go_write v (2 * (v.write ++ rest).length + 2 - v.steps) [] rest d hr
  rw [Nat.sub_add_cancel (by simp only [List.length_append]; omega)] at hgo
  simp only [skipValue, bind_apply, EStateM.bind, get_apply]
  rw [hgo]
  rfl

end Decode

end LiveViewer.Json
