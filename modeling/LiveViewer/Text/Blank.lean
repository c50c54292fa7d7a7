/-!
# Blank characters and trimming

User-typed text (stream keys, endpoints, transport names) is compared after removing blank
characters at both ends. "Blank" is the Unicode `White_Space` property: the ASCII controls
U+0009 to U+000D, the space, U+0085, the no-break spaces and the typographic spaces of the
U+2000 block, the line and paragraph separators, and the ideographic space U+3000. Zero-width
characters such as U+200B and U+FEFF are not blank.

`trim` keeps the text between the first and the last non-blank character
(`trim_eq_ofList`).
-/

namespace LiveViewer.Text

/-- The Unicode `White_Space` property. -/
def isBlank (c : Char) : Bool :=
  let n := c.toNat
  (0x09 ≤ n && n ≤ 0x0D) || n == 0x20 || n == 0x85 || n == 0xA0 || n == 0x1680 ||
    (0x2000 ≤ n && n ≤ 0x200A) || n == 0x2028 || n == 0x2029 || n == 0x202F ||
    n == 0x205F || n == 0x3000

/-- The characters of `cs` after its leading blanks and before its trailing blanks. -/
def trimChars (cs : List Char) : List Char :=
  ((cs.dropWhile isBlank).reverse.dropWhile isBlank).reverse

/-- `s` without blanks at either end. -/
def trim (s : String) : String :=
  String.ofList (trimChars s.toList)

/-- `s` without blanks at its start. -/
def trimStart (s : String) : String :=
  String.ofList (s.toList.dropWhile isBlank)

/-- `s` without blanks at its end. -/
def trimEnd (s : String) : String :=
  String.ofList (s.toList.reverse.dropWhile isBlank).reverse

/-- The ASCII letters `A` to `Z` lowered; every other character is kept. -/
def asciiLower (s : String) : String :=
  String.ofList (s.toList.map fun c => if c.isUpper then c.toLower else c)

/-- The words of `s`: its runs of non-blank characters, in order. -/
def words (s : String) : List String :=
  ((s.toList.splitBy fun a b => isBlank a == isBlank b).filter
    fun w => !w.all isBlank).map String.ofList

/-- `trim` keeps exactly the characters that `trimChars` keeps. -/
theorem trim_eq_ofList (s : String) : trim s = String.ofList (trimChars s.toList) := rfl

end LiveViewer.Text
