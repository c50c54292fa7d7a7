/-!
# Reading decimal literals

A floating literal is an optional sign and then `inf`, `infinity` or `nan` in any case, or
digits with an optional fraction after a point and an optional exponent after `e` or `E`,
with at least one digit before the exponent. `Literal` keeps what a literal says exactly, as
digits and a power of ten; a double is the one nearest to it, a tie going to the even
significand.
-/

namespace LiveViewer.Decimal

/-- Why a text is not a floating literal. -/
inductive FloatSyntax where
  | empty
  | invalid
  deriving DecidableEq, Repr

/-- The message of a floating literal syntax error. -/
def FloatSyntax.message : FloatSyntax → String
  | .empty => "cannot parse float from empty string"
  | .invalid => "invalid float literal"

/-- What a floating literal without its sign says. -/
inductive Literal where
  | infinity
  | nan
  /-- `digits · 10^exponent`. -/
  | finite (digits : Nat) (exponent : Int)
  deriving DecidableEq, Repr

/-- The digits at the front of `cs`, and the rest. -/
def spanDigits (cs : List Char) : List Char × List Char :=
  (cs.takeWhile (fun c => '0' ≤ c && c ≤ '9'), cs.dropWhile (fun c => '0' ≤ c && c ≤ '9'))

/-- The value of a run of digits. -/
def digitsValue (ds : List Char) : Nat := ds.foldl (fun acc c => acc * 10 + (c.toNat - 48)) 0

/-- Reads a floating literal without its sign. -/
def readUnsignedLiteral (cs : List Char) : Option Literal :=
  let low := cs.map fun c => if c.isUpper then c.toLower else c
  if low = "inf".toList || low = "infinity".toList then some .infinity
  else if low = "nan".toList then some .nan
  else
    let (whole, rest) := spanDigits cs
    let (frac, rest) :=
      match rest with
      | '.' :: more => spanDigits more
      | _ => ([], rest)
    if whole.isEmpty && frac.isEmpty then none
    else
      let expPart : Option Int :=
        match rest with
        | [] => some 0
        | e :: more =>
          if e = 'e' || e = 'E' then
            let (neg, ds) :=
              match more with
              | '+' :: r => (false, r)
              | '-' :: r => (true, r)
              | r => (false, r)
            if ds.isEmpty || !ds.all (fun c => '0' ≤ c && c ≤ '9') then none
            else some (if neg then -(digitsValue ds : Int) else digitsValue ds)
          else none
      expPart.map fun e => .finite (digitsValue (whole ++ frac)) (e - frac.length)

/-- Reads a floating literal: whether it is negative, and what it says. -/
def readLiteral (s : String) : Except FloatSyntax (Bool × Literal) :=
  let cs := s.toList
  if cs.isEmpty then .error .empty
  else
    let (neg, body) :=
      match cs with
      | '+' :: r => (false, r)
      | '-' :: r => (true, r)
      | r => (false, r)
    match readUnsignedLiteral body with
    | some l => .ok (neg, l)
    | none => .error .invalid

/-- The double nearest to a literal. -/
def Literal.toFloat : Literal → Float
  | .infinity => 1.0 / 0.0
  | .nan => 0.0 / 0.0
  | .finite mantissa exponent =>
    let size : Int := exponent + (Nat.toDigits 10 mantissa).length
    if mantissa = 0 || size < -400 then 0.0
    else if size > 400 then 1.0 / 0.0
    else if exponent ≥ 0 then Float.ofScientific mantissa false exponent.toNat
    else Float.ofScientific mantissa true (-exponent).toNat

/-- Reads a floating literal as the nearest double. -/
def readFloat (s : String) : Except FloatSyntax Float :=
  (readLiteral s).map fun (neg, l) => if neg then -l.toFloat else l.toFloat

end LiveViewer.Decimal
