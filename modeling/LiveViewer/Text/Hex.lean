import LiveViewer.Text.Quoted

/-!
# Hexadecimal byte strings

A hexadecimal text stands for bytes, two digits each, in either case. Decoding looks at the
UTF-8 bytes of the text: an odd number of them is refused first, then a count other than the one
expected, and then the first byte that is not a hexadecimal digit, named as the character of
that byte value together with its position. Encoding writes lowercase digits.
-/

namespace LiveViewer.Text

/-- Why a text is not a hexadecimal byte string. -/
inductive HexProblem where
  | oddLength
  /-- Not the number of bytes expected. -/
  | wrongLength
  /-- A byte that is not a digit, and its position. -/
  | invalidCharacter (byte : Nat) (index : Nat)
  deriving DecidableEq, Repr

/-- The message of a hexadecimal problem. -/
def HexProblem.message : HexProblem → String
  | .oddLength => "Odd number of digits"
  | .wrongLength => "Invalid string length"
  | .invalidCharacter b i =>
    "Invalid character " ++ quoteCharLiteral (Char.ofNat b) ++ " at position " ++ toString i

/-- The value of a hexadecimal digit byte. -/
def hexDigitValue (b : Nat) : Option Nat :=
  if 48 ≤ b && b ≤ 57 then some (b - 48)
  else if 65 ≤ b && b ≤ 70 then some (b - 55)
  else if 97 ≤ b && b ≤ 102 then some (b - 87)
  else none

/-- The bytes of digit pairs, the first digit at position `index`. -/
def hexPairs (index : Nat) : List Nat → Except HexProblem (List Nat)
  | hi :: lo :: rest =>
    match hexDigitValue hi, hexDigitValue lo with
    | none, _ => .error (.invalidCharacter hi index)
    | some _, none => .error (.invalidCharacter lo (index + 1))
    | some h, some l => (hexPairs (index + 2) rest).map ((16 * h + l) :: ·)
  | _ => .ok []

/-- Decodes a hexadecimal text, of exactly `expected` bytes when given. -/
def decodeHex (s : String) (expected : Option Nat) : Except HexProblem (List Nat) :=
  let bytes := s.toUTF8.toList.map (·.toNat)
  if bytes.length % 2 != 0 then .error .oddLength
  else if expected.any (· != bytes.length / 2) then .error .wrongLength
  else hexPairs 0 bytes

/-- Bytes in lowercase hexadecimal, two digits each. -/
def encodeHex (bytes : List Nat) : String :=
  String.join (bytes.map fun b =>
    String.ofList [Nat.digitChar (b / 16 % 16), Nat.digitChar (b % 16)])

end LiveViewer.Text
