import LiveViewer.Text.Printable

/-!
# Quoted text for diagnostics

Error messages and debug views show a text between double quotes, so that blanks and control
characters stay visible. The quoting rule: a double quote and a backslash get a backslash
before them; tab, carriage return, line feed and NUL are written `\t`, `\r`, `\n`, `\0`;
a character that is not printable, or a mark that extends a grapheme, is written as
`\u{h}` with its code point in lowercase hexadecimal without leading zeros; every other
character, the apostrophe included, stands for itself.
-/

namespace LiveViewer.Text

/-- Lowercase hexadecimal digits of `n`, without leading zeros (`0` for zero). -/
def hexLower (n : Nat) : String :=
  String.ofList (Nat.toDigits 16 n)

/-- How one character is written inside a quoted text. -/
def quoteChar (c : Char) : String :=
  if c = '"' then "\\\""
  else if c = '\\' then "\\\\"
  else if c = '\t' then "\\t"
  else if c = '\r' then "\\r"
  else if c = '\n' then "\\n"
  else if c = '\x00' then "\\0"
  else if isGraphemeExtend c || !isPrintable c then "\\u" ++ "\x7b" ++ hexLower c.toNat ++ "\x7d"
  else c.toString

/-- `s` between double quotes, each character written by `quoteChar`. -/
def quote (s : String) : String :=
  "\"" ++ String.join (s.toList.map quoteChar) ++ "\""

/-- `c` between apostrophes: an apostrophe gets a backslash, a double quote stands for itself,
and every other character is written by `quoteChar`. -/
def quoteCharLiteral (c : Char) : String :=
  "\x27" ++ (if c = '\x27' then "\\\x27" else if c = '"' then "\"" else quoteChar c) ++ "\x27"

example : quote "a\"b\n" = "\"a\\\"b\\n\"" := by decide

end LiveViewer.Text
