import LiveViewer.Text.Canonical

/-!
# Canonical normalization

Two texts are canonically equivalent when they differ only in how accented letters are
composed and in the order of marks of different combining classes. The normalization form D
of a text decomposes every character fully and then orders each run of marks stably by their
combining classes; the form C then composes again: each mark, and each starter right after the
last starter, is joined to the last starter when the pair has a primary composite and no
character between them has a class equal to or above the mark's (a starter between them
blocks). Hangul syllables decompose and compose by arithmetic on their jamo.
-/

namespace LiveViewer.Text

/-- The canonical combining class of `c`: zero for a starter. -/
def combiningClass (c : Char) : Nat :=
  match lastAtMost combiningClassRanges c.toNat with
  | some (hi, v) => if c.toNat ≤ hi then v else 0
  | none => 0

/-- The first Hangul syllable. -/
def hangulBase : Nat := 0xAC00

/-- The number of Hangul syllables. -/
def hangulCount : Nat := 11172

/-- The full canonical decomposition of one character. -/
def decomposeChar (c : Char) : List Char :=
  let n := c.toNat
  if hangulBase ≤ n && n < hangulBase + hangulCount then
    let s := n - hangulBase
    let lead := Char.ofNat (0x1100 + s / 588)
    let vowel := Char.ofNat (0x1161 + s % 588 / 28)
    if s % 28 = 0 then [lead, vowel] else [lead, vowel, Char.ofNat (0x11A7 + s % 28)]
  else
    match valueAt decompositions n with
    | some ds => ds.map Char.ofNat
    | none => [c]

/-- Marks in the order of their combining classes, equal classes keeping their order. -/
def sortMarks (marks : List Char) : List Char :=
  marks.mergeSort fun a b => combiningClass a ≤ combiningClass b

/-- Orders each run of marks of `cs` after the marks `pending` already met. -/
def reorder (pending : List Char) : List Char → List Char
  | [] => sortMarks pending
  | c :: cs =>
    if combiningClass c = 0 then sortMarks pending ++ c :: reorder [] cs
    else reorder (pending ++ [c]) cs

/-- The normalization form D of a text. -/
def nfd (cs : List Char) : List Char :=
  reorder [] (cs.flatMap decomposeChar)

/-- The primary composite of a pair, if any. -/
def composePair (first second : Char) : Option Char :=
  let a := first.toNat
  let b := second.toNat
  if 0x1100 ≤ a && a < 0x1113 && 0x1161 ≤ b && b < 0x1176 then
    some (Char.ofNat (hangulBase + ((a - 0x1100) * 21 + (b - 0x1161)) * 28))
  else if hangulBase ≤ a && a < hangulBase + hangulCount && (a - hangulBase) % 28 = 0 &&
      0x11A8 ≤ b && b < 0x11C3 then
    some (Char.ofNat (a + (b - 0x11A7)))
  else (valueAt compositionPairs (a * Nat.pow 2 21 + b)).map Char.ofNat

/-- Where composition stands: the text finished, reversed; the last starter; the characters
after it, reversed; and the class of the last of those (zero right after the starter). -/
structure Composer where
  done : List Char := []
  starter : Option Char := none
  after : List Char := []
  lastClass : Nat := 0

/-- The text composed so far. -/
def Composer.text (s : Composer) : List Char :=
  match s.starter with
  | some st => (s.after ++ st :: s.done).reverse
  | none => s.done.reverse

/-- Keeps `c`, of class `cc`, as it is after the starter `st`: a starter becomes the last
starter. -/
def Composer.keep (s : Composer) (st c : Char) (cc : Nat) : Composer :=
  if cc = 0 then { done := s.after ++ st :: s.done, starter := some c, after := [], lastClass := 0 }
  else { s with after := c :: s.after, lastClass := cc }

/-- Takes in the next character of a decomposed text. -/
def Composer.push (s : Composer) (c : Char) : Composer :=
  let cc := combiningClass c
  match s.starter with
  | none => if cc = 0 then { s with starter := some c, lastClass := 0 } else { s with done := c :: s.done }
  | some st =>
    match composePair st c with
    | some comp =>
      if s.after.isEmpty || s.lastClass < cc then { s with starter := some comp }
      else s.keep st c cc
    | none => s.keep st c cc

/-- The normalization form C of a text. -/
def nfc (cs : List Char) : List Char :=
  ((nfd cs).foldl Composer.push {}).text

/-- Whether a text is in normalization form C. -/
def isNfc (cs : List Char) : Bool := nfc cs == cs

end LiveViewer.Text
