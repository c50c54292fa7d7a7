/-!
# Percent-encoding

A URL carries bytes outside a component's safe set as `%` followed by two uppercase
hexadecimal digits. Each component has its own set of ASCII characters that must be encoded;
every byte of a non-ASCII character is always encoded, from its UTF-8 form. Decoding turns
each `%` followed by two hexadecimal digits into that byte, and leaves any other `%` as it is.

The sets nest: the path set is the query set with `?`, `` ` ``, `{` and `}`; the user-info set
adds the delimiters of an authority; a pushed path segment may not hold `/` or `%` either.
-/

namespace LiveViewer.Url

/-- The UTF-8 bytes of a character. -/
def utf8Bytes (c : Char) : List Nat :=
  let n := c.toNat
  if n < 0x80 then [n]
  else if n < 0x800 then [0xC0 + n / 0x40, 0x80 + n % 0x40]
  else if n < 0x10000 then [0xE0 + n / 0x1000, 0x80 + n / 0x40 % 0x40, 0x80 + n % 0x40]
  else [0xF0 + n / 0x40000, 0x80 + n / 0x1000 % 0x40, 0x80 + n / 0x40 % 0x40, 0x80 + n % 0x40]

/-- An uppercase hexadecimal digit. -/
def hexUpper (d : Nat) : Char :=
  if d < 10 then Char.ofNat (48 + d) else Char.ofNat (55 + d)

/-- A byte written as `%XX`. -/
def percentByte (b : Nat) : List Char := ['%', hexUpper (b / 16), hexUpper (b % 16)]

/-- The sets of ASCII characters a component must encode. -/
inductive EncodeSet where
  /-- Controls only: the host of a URL whose scheme is not special. -/
  | controls
  | fragment
  | query
  /-- The query of a URL with a special scheme, which also encodes the apostrophe. -/
  | specialQuery
  | path
  | userinfo
  /-- A path segment pushed as a whole. -/
  | pathSegment
  /-- A path segment pushed into a URL with a special scheme, also encoding the backslash. -/
  | specialPathSegment
  deriving DecidableEq, Repr

/-- The printable ASCII characters the set holds besides the controls. -/
def EncodeSet.extra : EncodeSet → List Char
  | .controls => []
  | .fragment => " \"<>`".toList
  | .query => " \"#<>".toList
  | .specialQuery => " \"#<>'".toList
  | .path => " \"#<>?`\x7b\x7d".toList
  | .userinfo => " \"#<>?`\x7b\x7d/:;=@[\\]^|".toList
  | .pathSegment => " \"#<>?`\x7b\x7d/%".toList
  | .specialPathSegment => " \"#<>?`\x7b\x7d/%\\".toList

/-- Whether the set holds the ASCII character `c`: every set holds the controls. -/
def EncodeSet.contains (s : EncodeSet) (c : Char) : Bool :=
  c.toNat < 0x20 || c.toNat = 0x7F || s.extra.contains c

/-- A character as it is written in a component encoded with `s`. -/
def encodeChar (s : EncodeSet) (c : Char) : List Char :=
  if c.toNat < 0x80 && !s.contains c then [c]
  else (utf8Bytes c).flatMap percentByte

/-- A text encoded with `s`. -/
def encode (s : EncodeSet) (cs : List Char) : List Char := cs.flatMap (encodeChar s)

/-- The value of a hexadecimal digit. -/
def hexValue (c : Char) : Option Nat :=
  if '0' ≤ c && c ≤ '9' then some (c.toNat - 48)
  else if 'a' ≤ c && c ≤ 'f' then some (c.toNat - 87)
  else if 'A' ≤ c && c ≤ 'F' then some (c.toNat - 55)
  else none

/-- The bytes a text stands for once its escapes are decoded. -/
def decodeBytes : List Char → List Nat
  | [] => []
  | '%' :: a :: b :: rest =>
    match hexValue a, hexValue b with
    | some x, some y => (16 * x + y) :: decodeBytes rest
    | _, _ => 37 :: decodeBytes (a :: b :: rest)
  | c :: rest => utf8Bytes c ++ decodeBytes rest

/-- The characters of well-formed UTF-8, or `none`. -/
def utf8Decode (bs : List Nat) : Option (List Char) :=
  let cont (b : Nat) : Bool := 0x80 ≤ b && b < 0xC0
  let valid (n lo : Nat) : Option Char :=
    if n < lo || (0xD800 ≤ n && n ≤ 0xDFFF) || n > 0x10FFFF then none else some (Char.ofNat n)
  let rec go : List Nat → Option (List Char)
    | [] => some []
    | b :: rest =>
      if b < 0x80 then (Char.ofNat b :: ·) <$> go rest
      else if 0xC2 ≤ b && b < 0xE0 then
        match rest with
        | c1 :: r => if cont c1 then do
            let ch ← valid ((b - 0xC0) * 0x40 + (c1 - 0x80)) 0x80
            (ch :: ·) <$> go r else none
        | _ => none
      else if 0xE0 ≤ b && b < 0xF0 then
        match rest with
        | c1 :: c2 :: r => if cont c1 && cont c2 then do
            let ch ← valid ((b - 0xE0) * 0x1000 + (c1 - 0x80) * 0x40 + (c2 - 0x80)) 0x800
            (ch :: ·) <$> go r else none
        | _ => none
      else if 0xF0 ≤ b && b < 0xF5 then
        match rest with
        | c1 :: c2 :: c3 :: r => if cont c1 && cont c2 && cont c3 then do
            let ch ← valid ((b - 0xF0) * 0x40000 + (c1 - 0x80) * 0x1000 + (c2 - 0x80) * 0x40 +
              (c3 - 0x80)) 0x10000
            (ch :: ·) <$> go r else none
        | _ => none
      else none
  go bs

end LiveViewer.Url
