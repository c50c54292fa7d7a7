import LiveViewer.Decimal.Shortest

/-!
# Writing a double in decimal

A finite double is written from its shortest digits (`LiveViewer.Decimal.shortest`). A
`Style` decides the rest: which decimal exponents are written positionally, whether an
integral value keeps a `.0`, and how an exponent is marked, signed and padded. Each text
format that prints doubles names its own style beside its writer.
-/

namespace LiveViewer.Decimal

/-- How a text format writes doubles. -/
structure Style where
  /-- The smallest exponent of the leading digit written positionally. -/
  lowExp : Int
  /-- Exponents of the leading digit from here up are written with an exponent. -/
  highExp : Int
  /-- Whether an integral value written positionally ends in `.0`. -/
  pointZero : Bool
  /-- The exponent mark. -/
  mark : String
  /-- Whether a nonnegative exponent has a plus sign. -/
  plusSign : Bool
  /-- The least number of exponent digits, padded with zeros. -/
  expDigits : Nat
  /-- The text of a NaN. -/
  nanText : String
  /-- The text of a positive infinity; a negative one has a minus sign before it. -/
  infText : String
  /-- Whether of two nearest shortest decimals the larger is taken. -/
  tieUp : Bool

/-- `n` zeros. -/
def zeros (n : Nat) : String := String.ofList (List.replicate n '0')

/-- The decimal digits of `n`, left-padded with zeros to at least `width`. -/
def padded (n width : Nat) : String :=
  let ds := Nat.toDigits 10 n
  zeros (width - ds.length) ++ String.ofList ds

/-- Digits `ds` with the leading digit at exponent `e`, written positionally. -/
def positional (s : Style) (ds : List Char) (e : Int) : String :=
  if 0 ≤ e then
    let whole := e.toNat + 1
    if ds.length ≤ whole then
      String.ofList ds ++ zeros (whole - ds.length) ++ (if s.pointZero then ".0" else "")
    else String.ofList (ds.take whole) ++ "." ++ String.ofList (ds.drop whole)
  else "0." ++ zeros ((-e).toNat - 1) ++ String.ofList ds

/-- Digits `ds` with the leading digit at exponent `e`, written with an exponent. -/
def scientific (s : Style) (ds : List Char) (e : Int) : String :=
  let head := String.ofList (ds.take 1)
  let tail := if ds.length > 1 then "." ++ String.ofList (ds.drop 1) else ""
  let sign := if e < 0 then "-" else if s.plusSign then "+" else ""
  head ++ tail ++ s.mark ++ sign ++ padded e.natAbs s.expDigits

/-- A double written in the style `s`. -/
def Style.write (s : Style) (x : Float) : String :=
  if x.isNaN then s.nanText
  else
    let neg := x < 0.0 || (x == 0.0 && (1.0 / x) < 0.0)
    let sign := if neg then "-" else ""
    if x.isInf then sign ++ s.infText
    else if x == 0.0 then sign ++ "0" ++ (if s.pointZero then ".0" else "")
    else
      let (c, k) := shortest x.abs s.tieUp
      let ds := Nat.toDigits 10 c
      let e := k + (ds.length : Int) - 1
      sign ++ (if s.lowExp ≤ e && e < s.highExp then positional s ds e else scientific s ds e)

end LiveViewer.Decimal
