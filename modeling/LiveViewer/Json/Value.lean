import LiveViewer.Decimal.Style

/-!
# JSON values and their compact text

A JSON number keeps the kind it was read as: a nonnegative integer that fits 64 bits, a
negative one that fits 64 signed bits, or a double. The compact text of a value has no
blanks; a string escapes the quote, the backslash and the control characters (short escapes
where JSON has them, `\u00XX` with lowercase hexadecimal otherwise) and keeps every other
character as it is. A double that is not finite is written `null`.
-/

namespace LiveViewer.Json

/-- A JSON number, by the kind it was read as. -/
inductive Number where
  /-- A nonnegative integer below `2^64`. -/
  | posInt (n : UInt64)
  /-- A negative integer of at least `-2^63`. -/
  | negInt (n : Int64)
  /-- Any other number. -/
  | float (x : Float)
  deriving Inhabited

/-- A JSON value. Object members keep the order in which they were added. -/
inductive Value where
  | null
  | bool (b : Bool)
  | number (n : Number)
  | string (s : String)
  | array (items : List Value)
  | object (members : List (String × Value))
  deriving Inhabited

/-- How compact JSON writes doubles: positionally from `1e-5` up to below `1e16`, with `.0`
on integral values, and otherwise with `e` and a signed exponent. -/
def floatStyle : Decimal.Style :=
  { lowExp := -5, highExp := 16, pointZero := true, mark := "e", plusSign := true,
    expDigits := 1, nanText := "null", infText := "null", tieUp := true }

/-- The text of a number. -/
def Number.write : Number → String
  | .posInt n => toString n.toNat
  | .negInt n => toString n.toInt
  | .float x => if x.isFinite then floatStyle.write x else "null"

/-- A natural number as a JSON number. -/
def Value.nat (n : Nat) : Value := .number (.posInt n.toUInt64)

/-- An optional text, `null` when absent. -/
def Value.optString : Option String → Value
  | some s => .string s
  | none => .null

/-- Lowercase hexadecimal digit. -/
def hexDigit (n : Nat) : Char :=
  if n < 10 then Char.ofNat (48 + n) else Char.ofNat (87 + n)

/-- How one character is written inside a JSON string. -/
def escapeChar (c : Char) : String :=
  if c = '"' then "\\\""
  else if c = '\\' then "\\\\"
  else if c = '\n' then "\\n"
  else if c = '\r' then "\\r"
  else if c = '\t' then "\\t"
  else if c.toNat = 8 then "\\b"
  else if c.toNat = 12 then "\\f"
  else if c.toNat < 0x20 then
    String.ofList ['\\', 'u', '0', '0', hexDigit (c.toNat / 16), hexDigit (c.toNat % 16)]
  else c.toString

/-- A text as a JSON string literal. -/
def quote (s : String) : String :=
  "\"" ++ String.join (s.toList.map escapeChar) ++ "\""

mutual

/-- The compact text of a value. -/
def Value.write : Value → String
  | .null => "null"
  | .bool b => if b then "true" else "false"
  | .number n => n.write
  | .string s => quote s
  | .array items => "[" ++ writeItems items ++ "]"
  | .object members => "\x7b" ++ writeMembers members ++ "\x7d"

/-- Array items, separated by commas. -/
def writeItems : List Value → String
  | [] => ""
  | [v] => v.write
  | v :: rest => v.write ++ "," ++ writeItems rest

/-- Object members, separated by commas. -/
def writeMembers : List (String × Value) → String
  | [] => ""
  | [(k, v)] => quote k ++ ":" ++ v.write
  | (k, v) :: rest => quote k ++ ":" ++ v.write ++ "," ++ writeMembers rest

end

end LiveViewer.Json
