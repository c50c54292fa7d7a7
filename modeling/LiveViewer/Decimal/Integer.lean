/-!
# Reading fixed-width integers

The text forms of session descriptions and ICE candidates hold decimal integers of fixed
widths. A reading is an optional sign and then decimal digits, read from left to right. It fails

* on an empty text (`empty`);
* on a sign alone, a minus sign before an unsigned number, or any character that is not a
  digit (`invalidDigit`);
* as soon as the value read so far leaves the range of the width (`posOverflow` above it,
  `negOverflow` below it), even when a character that is not a digit comes later.
-/

namespace LiveViewer.Decimal

/-- Why a text is not an integer of the width asked for. -/
inductive IntError where
  | empty
  | invalidDigit
  | posOverflow
  | negOverflow
  deriving DecidableEq, Repr

/-- The message of an integer reading error. -/
def IntError.message : IntError → String
  | .empty => "cannot parse integer from empty string"
  | .invalidDigit => "invalid digit found in string"
  | .posOverflow => "number too large to fit in target type"
  | .negOverflow => "number too small to fit in target type"

/-- The value of a decimal digit. -/
def digitValue (c : Char) : Option Nat :=
  if '0' ≤ c && c ≤ '9' then some (c.toNat - 48) else none

/-- Reads the digits `cs` after `acc`, each step checked against the range `lo` to `hi`; a
negative number subtracts its digits. -/
def readDigits (negative : Bool) (lo hi : Int) : Int → List Char → Except IntError Int
  | acc, [] => .ok acc
  | acc, c :: cs =>
    match digitValue c with
    | none => .error .invalidDigit
    | some d =>
      let acc := if negative then acc * 10 - d else acc * 10 + d
      if acc > hi then .error .posOverflow
      else if acc < lo then .error .negOverflow
      else readDigits negative lo hi acc cs

/-- Reads an integer between `lo` and `hi`, with a minus sign allowed when `lo` is negative. -/
def readInRange (lo hi : Int) (s : String) : Except IntError Int :=
  match s.toList with
  | [] => .error .empty
  | ['+'] | ['-'] => .error .invalidDigit
  | '+' :: ds => readDigits false lo hi 0 ds
  | '-' :: ds => if lo < 0 then readDigits true lo hi 0 ds else .error .invalidDigit
  | ds => readDigits false lo hi 0 ds

/-- Reads an unsigned integer of `bits` bits. -/
def readUnsigned (bits : Nat) (s : String) : Except IntError Nat :=
  (readInRange 0 (Int.pow 2 bits - 1) s).map Int.toNat

/-- Reads a signed integer of `bits` bits. -/
def readSigned (bits : Nat) (s : String) : Except IntError Int :=
  readInRange (-(Int.pow 2 (bits - 1))) (Int.pow 2 (bits - 1) - 1) s

end LiveViewer.Decimal
