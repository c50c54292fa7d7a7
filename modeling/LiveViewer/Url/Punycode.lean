/-!
# Punycode

The bootstring encoding of internationalized domain labels: the label's ASCII characters in
order, a hyphen if there were any, and then the other code points in increasing order, each
as the distance from the previous insertion written as a variable-length number in base 36
whose digit thresholds follow an adaptive bias. Decoding undoes this and fails on a digit
that is not one, a number that runs out, or a code point that is not a character.

Every loop has a measure: the bias loop divides its value, a number's digits shrink it, the
encoder consumes the remaining code points in increasing order, and the decoder consumes its
input.
-/

namespace LiveViewer.Url.Punycode

/-- The digit `d` (0 to 35) as a character: `a` to `z`, then `0` to `9`. -/
def digitChar (d : Nat) : Char :=
  if d < 26 then Char.ofNat (97 + d) else Char.ofNat (22 + d)

/-- The value of a digit character, in either case. -/
def digitValue (c : Char) : Option Nat :=
  let n := c.toNat
  if 97 ≤ n && n ≤ 122 then some (n - 97)
  else if 65 ≤ n && n ≤ 90 then some (n - 65)
  else if 48 ≤ n && n ≤ 57 then some (n - 22)
  else none

/-- The threshold of the digit at position `k` under `bias`: between 1 and 26. -/
def threshold (k bias : Nat) : Nat :=
  if k ≤ bias then 1 else if bias + 26 ≤ k then 26 else k - bias

theorem threshold_pos (k bias : Nat) : 1 ≤ threshold k bias := by
  unfold threshold; split <;> (try split) <;> omega

theorem threshold_le (k bias : Nat) : threshold k bias ≤ 26 := by
  unfold threshold; split <;> (try split) <;> omega

/-- Divides `delta` by 35 until it is at most 455, counting steps of 36 in `k`. -/
def shrink (delta k : Nat) : Nat × Nat :=
  if 455 < delta then shrink (delta / 35) (k + 36) else (delta, k)
termination_by delta
decreasing_by exact Nat.div_lt_self (by omega) (by omega)

/-- The bias after a code point, from the distance and the number of code points so far. -/
def adapt (delta count : Nat) (first : Bool) : Nat :=
  let d := if first then delta / 700 else delta / 2
  let (d, k) := shrink (d + d / count) 0
  k + 36 * d / (d + 38)

/-- The digits of the number `q`, from position `k` on. -/
def digits (bias k q : Nat) : List Char :=
  if q < threshold k bias then [digitChar q]
  else digitChar (threshold k bias + (q - threshold k bias) % (36 - threshold k bias)) ::
    digits bias (k + 36) ((q - threshold k bias) / (36 - threshold k bias))
termination_by q
decreasing_by
  have h1 := threshold_pos k bias
  have h2 := threshold_le k bias
  have h3 : (q - threshold k bias) / (36 - threshold k bias) ≤ q - threshold k bias :=
    Nat.div_le_self _ _
  omega

/-- The encoder's state: output so far, distance, bias and code points handled. -/
structure Encoding where
  out : List Char
  delta : Nat
  bias : Nat
  handled : Nat

/-- Sees one input code point `c` while inserting the code point `m`. -/
def visit (basic m : Nat) (s : Encoding) (c : Char) : Encoding :=
  if c.toNat < m then { s with delta := s.delta + 1 }
  else if c.toNat = m then
    { out := s.out ++ digits s.bias 36 s.delta, delta := 0,
      bias := adapt s.delta (s.handled + 1) (s.handled == basic), handled := s.handled + 1 }
  else s

/-- Inserts the code points `ms`, increasing, the last inserted being below `n`. -/
def insertAll (input : List Char) (basic : Nat) : List Nat → Nat → Encoding → Encoding
  | [], _, s => s
  | m :: rest, n, s =>
    let s := input.foldl (visit basic m) { s with delta := s.delta + (m - n) * (s.handled + 1) }
    insertAll input basic rest (m + 1) { s with delta := s.delta + 1 }

/-- The distinct code points of at least 128 in `cs`, increasing. -/
def wideCodes (cs : List Char) : List Nat :=
  ((cs.map Char.toNat).filter (128 ≤ ·)).mergeSort.eraseDups

/-- The Punycode form of a label. -/
def encode (cs : List Char) : List Char :=
  let basic := cs.filter (·.toNat < 128)
  let start : Encoding :=
    { out := if basic.isEmpty then [] else basic ++ ['-'], delta := 0, bias := 72,
      handled := basic.length }
  (insertAll cs basic.length (wideCodes cs) 128 start).out

/-- Reads one number in base 36 with thresholds from `bias`, from position `k` with weight `w`,
adding it to `i`. -/
def readNumber (bias : Nat) : List Char → Nat → Nat → Nat → Option (Nat × List Char)
  | [], _, _, _ => none
  | c :: rest, k, w, i => do
    let d ← digitValue c
    let i := i + d * w
    let t := threshold k bias
    if d < t then some (i, rest) else readNumber bias rest (k + 36) (w * (36 - t)) i

/-- Decodes the digits after the basic part; each number takes at least one character, so
`fuel` above the input's length suffices. -/
def decodeDigits : (fuel : Nat) → List Char → List Nat → Nat → Nat → Nat → Option (List Nat)
  | 0, _, _, _, _, _ => none
  | _ + 1, [], out, _, _, _ => some out
  | fuel + 1, input, out, n, i, bias => do
    let (i2, rest) ← readNumber bias input 36 1 i
    let len := out.length + 1
    let bias := adapt (i2 - i) len (i == 0)
    let n := n + i2 / len
    let pos := i2 % len
    if n > 0x10FFFF || (0xD800 ≤ n && n ≤ 0xDFFF) then none
    else decodeDigits fuel rest (out.take pos ++ [n] ++ out.drop pos) n (pos + 1) bias

/-- The label a Punycode text stands for, or `none`: the characters before the last hyphen
are the basic part, which must be ASCII. -/
def decode (cs : List Char) : Option (List Char) := do
  let (basic, rest) :=
    match (cs.reverse.findIdx? (· = '-')) with
    | some j =>
      let pos := cs.length - 1 - j
      if pos = 0 then ([], cs) else (cs.take pos, cs.drop (pos + 1))
    | none => ([], cs)
  if basic.any (·.toNat ≥ 128) then none
  let codes ← decodeDigits (rest.length + 1) rest (basic.map Char.toNat) 128 0 72
  pure (codes.map Char.ofNat)

end LiveViewer.Url.Punycode
