import LiveViewer.Decimal.Read
import LiveViewer.Decimal.Style

/-!
# Single-precision values

Some attributes of a playlist are single-precision binary floating-point numbers. A finite
single is `± m · 2^q` with `m < 2^24` and `-149 ≤ q ≤ 104`, and `2^23 ≤ m` unless `q = -149`,
where the values thin out evenly down to zero. A decimal reads as the nearest single, a tie
going to the even significand; a decimal that rounds to `2^128` or beyond is an infinity.

A single is written in two ways: with the fewest digits that read back, positionally and
without a trailing `.0`; or with a fixed number of places, rounded to nearest with ties to
even.
-/

namespace LiveViewer.Decimal

/-- `num / den` rounded to the nearest integer, a tie going to the even one. -/
def roundHalfEven (num den : Nat) : Nat :=
  let q := num / den
  let r := num % den
  if 2 * r < den then q else if 2 * r > den then q + 1 else if q % 2 = 0 then q else q + 1

/-- Whether `2^e ≤ num / den`. -/
def powTwoLe (e : Int) (num den : Nat) : Bool :=
  if 0 ≤ e then Nat.pow 2 e.toNat * den ≤ num else den ≤ num * Nat.pow 2 (-e).toNat

/-- `⌊log₂ (num / den)⌋` of a positive rational: the difference of the two logarithms is it or
one more. -/
def floorLog2 (num den : Nat) : Int :=
  let guess : Int := (Nat.log2 num : Int) - (Nat.log2 den : Int)
  if powTwoLe guess num den then guess else guess - 1

/-- A single-precision value. -/
inductive Single where
  /-- `± significand · 2^exponent`. -/
  | finite (negative : Bool) (significand : Nat) (exponent : Int)
  | infinite (negative : Bool)
  | nan
  deriving DecidableEq, Repr

namespace Single

/-- The exponent of the smallest singles. -/
def minExponent : Int := -149

/-- The exponent of the largest singles. -/
def maxExponent : Int := 104

/-- The significand and exponent of the single nearest to the positive rational `num / den`,
or `none` when it rounds past the largest single. The binade is that of `⌊log₂⌋`, but not below
the smallest; a significand rounded up to `2^24` moves to the next binade. -/
def nearest (num den : Nat) : Option (Nat × Int) :=
  let q := max (floorLog2 num den - 23) minExponent
  let m :=
    if 0 ≤ q then roundHalfEven num (den * Nat.pow 2 q.toNat)
    else roundHalfEven (num * Nat.pow 2 (-q).toNat) den
  let (m, q) := if m = Nat.pow 2 24 then (Nat.pow 2 23, q + 1) else (m, q)
  if q > maxExponent then none else some (m, q)

/-- The single nearest to a literal, with its sign. A literal below `10^-50` is a zero and one
of `10^40` or more an infinity, without computing powers of their size. -/
def ofLiteral (negative : Bool) : Literal → Single
  | .infinity => .infinite negative
  | .nan => .nan
  | .finite d e =>
    let size := e + (digitCount d : Int)
    if d = 0 || size < -50 then .finite negative 0 minExponent
    else if size > 40 then .infinite negative
    else
      let (num, den) := if 0 ≤ e then (d * Nat.pow 10 e.toNat, 1) else (d, Nat.pow 10 (-e).toNat)
      match nearest num den with
      | some (m, q) => .finite negative m q
      | none => .infinite negative

/-- Reads a floating literal as the nearest single. -/
def read (s : String) : Except FloatSyntax Single :=
  (readLiteral s).map fun (neg, l) => ofLiteral neg l

/-- Whether the sign bit is set: true of negative values, `-0` and negative infinity. -/
def isSignNegative : Single → Bool
  | .finite neg _ _ => neg
  | .infinite neg => neg
  | .nan => false

/-- The shortest digits `c · 10^k` of a positive single `m · 2^q`; nine digits always suffice. -/
def shortestDigits (m : Nat) (q : Int) : Nat × Int :=
  let i := Interval.ofParts m q (m == Nat.pow 2 23 && q > minExponent)
  match i.firstHit true (List.range' 1 9) with
  | some (c, k) => stripZeros c k 12
  | none => stripZeros (floorPow 0 i.value i.den) 0 12

/-- How singles are written: always positionally, an integral value without a point. -/
def style : Style :=
  { lowExp := -1000, highExp := 1000, pointZero := false, mark := "e", plusSign := false,
    expDigits := 1, nanText := "NaN", infText := "inf", tieUp := true }

/-- The sign of a value as written. -/
def signText (negative : Bool) : String := if negative then "-" else ""

/-- A single written with the fewest digits that read back. -/
def text : Single → String
  | .nan => style.nanText
  | .infinite neg => signText neg ++ style.infText
  | .finite neg 0 _ => signText neg ++ "0"
  | .finite neg m q =>
    let (c, k) := shortestDigits m q
    let ds := Nat.toDigits 10 c
    signText neg ++ positional style ds (k + (ds.length : Int) - 1)

/-- A single written with `places` digits after the point, rounded to nearest with ties to
even. -/
def fixed (places : Nat) : Single → String
  | .nan => style.nanText
  | .infinite neg => signText neg ++ style.infText
  | .finite neg m q =>
    let scale := Nat.pow 10 places
    let n :=
      if 0 ≤ q then m * Nat.pow 2 q.toNat * scale
      else roundHalfEven (m * scale) (Nat.pow 2 (-q).toNat)
    signText neg ++ toString (n / scale) ++
      (if places = 0 then "" else "." ++ padded (n % scale) places)

example : (match read "29.97" with | .ok x => fixed 3 x | .error _ => "") = "29.970" := by decide
example : (match read "-1.5" with | .ok x => text x | .error _ => "") = "-1.5" := by decide

end Single

end LiveViewer.Decimal
