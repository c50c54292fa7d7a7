/-!
# Session identifiers

Every connection attempt gets a fresh identifier: a random UUID of version 4. Of its 128 bits,
the four version bits hold `4` and the two variant bits hold `10`; the other 122 bits come from
the random source. The text form is 32 lowercase hexadecimal digits in groups of 8, 4, 4, 4 and
12, joined by hyphens, so the version digit is the character at index 14.
-/

namespace LiveViewer

/-- A session identifier, as the high and low halves of its 128 bits. -/
structure SessionId where
  /-- Bits 127 to 64. -/
  high : UInt64
  /-- Bits 63 to 0. -/
  low : UInt64
  deriving DecidableEq, Repr, Inhabited

/-- The version 4 identifier made from 128 random bits: the version and variant bits are
overwritten, the others kept. -/
def SessionId.ofBits (high low : UInt64) : SessionId :=
  ⟨(high &&& 0xFFFFFFFFFFFF0FFF) ||| 0x4000, (low &&& 0x3FFFFFFFFFFFFFFF) ||| 0x8000000000000000⟩

/-- The version number held in bits 79 to 76. -/
def SessionId.version (id : SessionId) : Nat :=
  ((id.high >>> 12) &&& 0xF).toNat

/-- The `width` lowest hexadecimal digits of `n`, most significant first. -/
def hexDigits (n : Nat) : (width : Nat) → List Char
  | 0 => []
  | w + 1 => hexDigits (n / 16) w ++ [Nat.digitChar (n % 16)]

/-- The hyphenated lowercase text of the identifier. -/
def SessionId.text (id : SessionId) : String :=
  let ds := hexDigits id.high.toNat 16 ++ hexDigits id.low.toNat 16
  String.ofList (ds.take 8 ++ ['-'] ++ (ds.drop 8).take 4 ++ ['-'] ++ (ds.drop 12).take 4 ++
    ['-'] ++ (ds.drop 16).take 4 ++ ['-'] ++ ds.drop 20)

/-- The digits of `hexDigits` number `width`. -/
theorem hexDigits_length (n width : Nat) : (hexDigits n width).length = width := by
  induction width generalizing n with
  | zero => rfl
  | succ w ih => simp [hexDigits, ih]

end LiveViewer
