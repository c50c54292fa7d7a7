import LiveViewer.Url.Percent

/-!
# Percent-decoding undoes percent-encoding

Encoding writes a character either as itself or as the `%XX` escapes of its UTF-8 bytes;
decoding turns escapes back into bytes, every other character into its UTF-8 bytes, and reads
the bytes as UTF-8. When the encode set holds `%` itself, no `%` is left bare, so decoding
finds exactly the escapes encoding wrote (`decodeBytes_encode`), and the bytes are the UTF-8
form of the text, which reads back to it (`utf8Decode_flatMap`). Main statement:
`utf8Decode_decodeBytes_encode`.
-/

namespace LiveViewer.Url

/-- A character's code point is no surrogate and lies below `0x110000`. -/
theorem toNat_valid (c : Char) : c.toNat < 0xD800 ∨ (0xDFFF < c.toNat ∧ c.toNat < 0x110000) :=
  c.valid

/-! ## Bytes -/

theorem hexValue_hexUpper : ∀ d < 16, hexValue (hexUpper d) = some d := by
  decide

/-- Every byte of a character's UTF-8 form is below `256`. -/
theorem utf8Bytes_lt (c : Char) : ∀ b ∈ utf8Bytes c, b < 256 := by
  have hv := toNat_valid c
  intro b hb
  simp only [utf8Bytes] at hb
  repeat' split at hb
  all_goals simp at hb; omega

/-- The escape of a byte is read back to the byte. -/
theorem decodeBytes_percentByte {b : Nat} (hb : b < 256) (rest : List Char) :
    decodeBytes (percentByte b ++ rest) = b :: decodeBytes rest := by
  have hhi := hexValue_hexUpper (b / 16) (by omega)
  have hlo := hexValue_hexUpper (b % 16) (by omega)
  simp only [percentByte, List.cons_append, List.nil_append, decodeBytes, hhi, hlo]
  congr 1
  omega

/-- The escapes of a run of bytes are read back to the bytes. -/
theorem decodeBytes_escapes (bs : List Nat) (hbs : ∀ b ∈ bs, b < 256) (rest : List Char) :
    decodeBytes (bs.flatMap percentByte ++ rest) = bs ++ decodeBytes rest := by
  induction bs with
  | nil => rfl
  | cons b bs ih =>
    rw [List.flatMap_cons, List.append_assoc,
      decodeBytes_percentByte (hbs b List.mem_cons_self) _,
      ih fun x hx => hbs x (List.mem_cons_of_mem b hx), List.cons_append]

/-- A character other than `%` is read as its UTF-8 bytes. -/
theorem decodeBytes_cons {c : Char} (hc : c ≠ '%') (rest : List Char) :
    decodeBytes (c :: rest) = utf8Bytes c ++ decodeBytes rest :=
  decodeBytes.eq_3 c rest fun _ _ _ h => absurd h hc

/-- One encoded character is read as its UTF-8 bytes, when the encode set holds `%`. -/
theorem decodeBytes_encodeChar {s : EncodeSet} (hs : s.contains '%' = true) (c : Char)
    (rest : List Char) :
    decodeBytes (encodeChar s c ++ rest) = utf8Bytes c ++ decodeBytes rest := by
  unfold encodeChar
  split
  · -- a character kept as it is: ASCII, and not `%`, which the set holds
    rename_i hkeep
    have hc : c ≠ '%' := by
      rintro rfl
      simp [hs] at hkeep
    exact decodeBytes_cons hc rest
  · exact decodeBytes_escapes _ (utf8Bytes_lt c) rest

/-- An encoded text is read as the UTF-8 bytes of the text. -/
theorem decodeBytes_encode {s : EncodeSet} (hs : s.contains '%' = true) (cs : List Char) :
    decodeBytes (encode s cs) = cs.flatMap utf8Bytes := by
  induction cs with
  | nil => rfl
  | cons c cs ih =>
    rw [encode, List.flatMap_cons, decodeBytes_encodeChar hs, ← encode, ih, List.flatMap_cons]

/-! ## UTF-8 -/

/-- The UTF-8 bytes of a character are read back to it, whatever follows. Each length of the
form is one case: the lead byte falls in the range that announces its length, the
continuation bytes in theirs, and the code point they carry is the character's. -/
theorem utf8Decode_utf8Bytes (c : Char) (bs : List Nat) :
    utf8Decode (utf8Bytes c ++ bs) = (c :: ·) <$> utf8Decode bs := by
  have hv := toNat_valid c
  have hsur : ¬((0xD800 ≤ c.toNat ∧ c.toNat ≤ 0xDFFF) ∨ 0x10FFFF < c.toNat) := by omega
  unfold utf8Decode
  by_cases h1 : c.toNat < 0x80
  · cases bs <;> simp [utf8Bytes, h1, utf8Decode.go]
  by_cases h2 : c.toNat < 0x800
  · have ha : ¬0xC0 + c.toNat / 0x40 < 0x80 := by omega
    have hb : 0xC2 ≤ 0xC0 + c.toNat / 0x40 ∧ 0xC0 + c.toNat / 0x40 < 0xE0 := by omega
    have hc : 0x80 ≤ 0x80 + c.toNat % 0x40 ∧ 0x80 + c.toNat % 0x40 < 0xC0 := by omega
    have hn : c.toNat / 0x40 * 0x40 + c.toNat % 0x40 = c.toNat := by omega
    simp [utf8Bytes, h1, h2, utf8Decode.go, hsur, ha, hb, hc, hn]
  by_cases h3 : c.toNat < 0x10000
  · have ha : ¬0xE0 + c.toNat / 0x1000 < 0x80 := by omega
    have hb : ¬(0xC2 ≤ 0xE0 + c.toNat / 0x1000 ∧ 0xE0 + c.toNat / 0x1000 < 0xE0) := by omega
    have hb' : 0xE0 ≤ 0xE0 + c.toNat / 0x1000 ∧ 0xE0 + c.toNat / 0x1000 < 0xF0 := by omega
    have hc : 0x80 ≤ 0x80 + c.toNat / 0x40 % 0x40 ∧ 0x80 + c.toNat / 0x40 % 0x40 < 0xC0 := by
      omega
    have hd : 0x80 ≤ 0x80 + c.toNat % 0x40 ∧ 0x80 + c.toNat % 0x40 < 0xC0 := by omega
    have hn : c.toNat / 0x1000 * 0x1000 + c.toNat / 0x40 % 0x40 * 0x40 + c.toNat % 0x40 =
        c.toNat := by omega
    simp [utf8Bytes, h1, h2, h3, utf8Decode.go, hsur, ha, hb, hb', hc, hd, hn]
  · have ha : ¬0xF0 + c.toNat / 0x40000 < 0x80 := by omega
    have hb : ¬(0xC2 ≤ 0xF0 + c.toNat / 0x40000 ∧ 0xF0 + c.toNat / 0x40000 < 0xE0) := by omega
    have hb' : ¬(0xE0 ≤ 0xF0 + c.toNat / 0x40000 ∧ 0xF0 + c.toNat / 0x40000 < 0xF0) := by omega
    have hb'' : 0xF0 ≤ 0xF0 + c.toNat / 0x40000 ∧ 0xF0 + c.toNat / 0x40000 < 0xF5 := by omega
    have hc : 0x80 ≤ 0x80 + c.toNat / 0x1000 % 0x40 ∧ 0x80 + c.toNat / 0x1000 % 0x40 < 0xC0 := by
      omega
    have hd : 0x80 ≤ 0x80 + c.toNat / 0x40 % 0x40 ∧ 0x80 + c.toNat / 0x40 % 0x40 < 0xC0 := by
      omega
    have he : 0x80 ≤ 0x80 + c.toNat % 0x40 ∧ 0x80 + c.toNat % 0x40 < 0xC0 := by omega
    have hn : c.toNat / 0x40000 * 0x40000 + c.toNat / 0x1000 % 0x40 * 0x1000 +
        c.toNat / 0x40 % 0x40 * 0x40 + c.toNat % 0x40 = c.toNat := by omega
    simp [utf8Bytes, h1, h2, h3, utf8Decode.go, hsur, ha, hb, hb', hb'', hc, hd, he, hn]

/-- The UTF-8 form of a text reads back to the text. -/
theorem utf8Decode_flatMap (cs : List Char) : utf8Decode (cs.flatMap utf8Bytes) = some cs := by
  induction cs with
  | nil => rfl
  | cons c cs ih => rw [List.flatMap_cons, utf8Decode_utf8Bytes, ih]; rfl

/-- Percent-decoding gives back every text encoded with a set that holds `%`. -/
theorem utf8Decode_decodeBytes_encode {s : EncodeSet} (hs : s.contains '%' = true)
    (cs : List Char) : utf8Decode (decodeBytes (encode s cs)) = some cs := by
  rw [decodeBytes_encode hs, utf8Decode_flatMap]

end LiveViewer.Url
