/-!
# Shortest decimal digits of a double

A finite positive double `v = m · 2^q` stands for every real that rounds to it: the interval
from halfway to its lower neighbour to halfway to its upper one, ends included when `m` is even
(a tie reads back to the even significand). The shortest digits of `v` are the fewest
significant decimal digits `c · 10^k` that land in this interval, and among decimals of that
length the one nearest to `v`.

For a length `n` the candidates are the two neighbours of `v` on the grid `10^(E - n + 1)`,
where `10^E ≤ v < 10^(E+1)`: if some point of the grid lies in the interval, so does one of
them, since the interval holds `v`. Lengths `1, 2, …, 17` are tried in order; seventeen digits
always suffice for a double. All comparisons are exact, in natural numbers.
-/

namespace LiveViewer.Decimal

/-- A positive rational `num / den` compared with `c · 10^k`: whether `c · 10^k ≤ num / den`. -/
def powLe (c : Nat) (k : Int) (num den : Nat) : Bool :=
  if 0 ≤ k then c * Nat.pow 10 k.toNat * den ≤ num else c * den ≤ num * Nat.pow 10 (-k).toNat

/-- Whether `c · 10^k < num / den`. -/
def powLt (c : Nat) (k : Int) (num den : Nat) : Bool :=
  if 0 ≤ k then c * Nat.pow 10 k.toNat * den < num else c * den < num * Nat.pow 10 (-k).toNat

/-- `⌊(num / den) / 10^k⌋`. -/
def floorPow (k : Int) (num den : Nat) : Nat :=
  if 0 ≤ k then num / (den * Nat.pow 10 k.toNat) else num * Nat.pow 10 (-k).toNat / den

/-- The number of decimal digits of `n` (one for zero). -/
def digitCount (n : Nat) : Nat := (Nat.toDigits 10 n).length

/-- The decimal exponent `E` of a positive rational: `10^E ≤ num / den < 10^(E+1)`. -/
def decimalExponent (num den : Nat) : Int :=
  let guess : Int := (digitCount num : Int) - (digitCount den : Int)
  if powLe 1 guess num den then guess else guess - 1

/-- The real interval that reads back to a double, scaled by a common denominator. -/
structure Interval where
  /-- Numerator of the value. -/
  value : Nat
  /-- Numerator of the lower end. -/
  low : Nat
  /-- Numerator of the upper end. -/
  high : Nat
  /-- The common denominator. -/
  den : Nat
  /-- Whether the two ends read back to the value too. -/
  closed : Bool

/-- The interval of `m · 2^q`, whose lower neighbour is nearer by half when `m` is the smallest
significand of its binade (`narrowBelow`). -/
def Interval.ofParts (m : Nat) (q : Int) (narrowBelow : Bool) : Interval :=
  let scale := Nat.pow 2 q.toNat
  let den := 4 * Nat.pow 2 (-q).toNat
  let value := 4 * m * scale
  { value
    low := if narrowBelow then value - scale else value - 2 * scale
    high := value + 2 * scale
    den
    closed := m % 2 == 0 }

/-- Whether `c · 10^k` lies in the interval. -/
def Interval.holds (i : Interval) (c : Nat) (k : Int) : Bool :=
  if i.closed then !powLt c k i.low i.den && powLe c k i.high i.den
  else !powLe c k i.low i.den && powLt c k i.high i.den

/-- Twice the distance of `c · 10^k` from the value, over the denominator `den · 10^|k|`
shared by all candidates of one length. -/
def Interval.gap (i : Interval) (c : Nat) (k : Int) : Nat :=
  let a := if 0 ≤ k then c * Nat.pow 10 k.toNat * i.den else c * i.den
  let b := if 0 ≤ k then i.value else i.value * Nat.pow 10 (-k).toNat
  if a ≤ b then b - a else a - b

/-- The digits `c` and exponent `k` with `c · 10^k` the decimal of `n` digits read back to the
interval and nearest to the value, if any; an exact tie goes up when `tieUp`. -/
def Interval.atLength (i : Interval) (tieUp : Bool) (n : Nat) : Option (Nat × Int) :=
  let k := decimalExponent i.value i.den - (n : Int) + 1
  let c := floorPow k i.value i.den
  let downOk := i.holds c k
  let upOk := i.holds (c + 1) k
  if downOk && upOk then
    let dDown := i.gap c k
    let dUp := i.gap (c + 1) k
    if dUp < dDown || (dUp == dDown && tieUp) then some (c + 1, k) else some (c, k)
  else if downOk then some (c, k)
  else if upOk then some (c + 1, k)
  else none

/-- The first length from `lengths` at which a decimal reads back. -/
def Interval.firstHit (i : Interval) (tieUp : Bool) : List Nat → Option (Nat × Int)
  | [] => none
  | n :: rest =>
    match i.atLength tieUp n with
    | some r => some r
    | none => i.firstHit tieUp rest

/-- Drops trailing zero digits of `c`, raising the exponent to match. -/
def stripZeros (c : Nat) (k : Int) : (fuel : Nat) → Nat × Int
  | 0 => (c, k)
  | fuel + 1 => if c ≠ 0 ∧ c % 10 = 0 then stripZeros (c / 10) (k + 1) fuel else (c, k)

/-- The parts of a finite positive double: significand, binary exponent, and whether its
lower neighbour is nearer than its upper one. -/
def parts (x : Float) : Nat × Int × Bool :=
  let bits := x.toBits.toNat
  let frac : Nat := bits % Nat.pow 2 52
  let biased : Nat := (bits / Nat.pow 2 52) % Nat.pow 2 11
  if biased = 0 then (frac, -1074, false)
  else (frac + Nat.pow 2 52, (biased : Int) - 1075, frac = 0 && biased > 1)

/-- The shortest digits of a finite positive double as `c · 10^k`, `c` without trailing zeros;
`tieUp` settles two nearest decimals of the shortest length. -/
def shortest (x : Float) (tieUp : Bool) : Nat × Int :=
  let (m, q, narrow) := parts x
  let i := Interval.ofParts m q narrow
  match i.firstHit tieUp (List.range' 1 17) with
  | some (c, k) => stripZeros c k 20
  | none => stripZeros (floorPow 0 i.value i.den) 0 20

end LiveViewer.Decimal
