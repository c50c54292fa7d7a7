import LiveViewer.Url.IdnaMapping
import LiveViewer.Url.Punycode
import LiveViewer.Text.Bidi
import LiveViewer.Text.Joining
import LiveViewer.Text.Mark
import LiveViewer.Text.Normal

/-!
# Internationalized domain names

A host of a special URL is brought to its ASCII form by the processing of Unicode Technical
Standard 46, nontransitional, as URLs use it:

1. every character is mapped by the IDNA mapping table (`LiveViewer.Url.IdnaMapping`); a
   disallowed character refuses the name;
2. the result is put in normalization form C and split into labels at dots;
3. a label that starts with `xn--` must be ASCII and decode from Punycode to a label that is
   not empty, not ASCII, in normalization form C, not itself starting with `xn--`, without a
   dot, and of characters that are valid as they stand;
4. no label may begin with a mark; a zero width joiner must follow a virama, and a zero width
   non-joiner must follow a virama or stand between a letter joining to the right and one
   joining to the left, with only transparent characters around it;
5. when some label holds right-to-left text or Arabic digits, every label must satisfy the
   bidirectional rule;
6. each label beyond ASCII is written in Punycode behind `xn--`, and no ASCII character of
   the result may be a control, a space, or one of `% # / : < > ? @ [ \ ] ^ |`.

Punycode is decoded from at most 2000 characters and encoded from at most 1000 in one label,
which keeps its quadratic work bounded.
-/

namespace LiveViewer.Url

open LiveViewer.Text

/-- How one character enters a domain name. -/
inductive Mapping where
  /-- It stands for itself. -/
  | valid
  /-- It stands for these characters. -/
  | mapped (cs : List Char)
  /-- It is dropped. -/
  | ignored
  /-- It refuses the name. -/
  | disallowed
  deriving DecidableEq, Repr

/-- The mapping of a character, by the IDNA mapping table. -/
def mapping (c : Char) : Mapping :=
  let n := c.toNat
  match lastEntryAtMost idnaStarts n with
  | some (_, .valid) => .valid
  | some (_, .ignored) => .ignored
  | some (_, .disallowed) => .disallowed
  | some (_, .mapped target) => .mapped (target.map Char.ofNat)
  | some (_, .shifted delta) => .mapped [Char.ofNat (n + delta).toNat]
  | some (k, .pairs) => if (n - k) % 2 = 0 then .mapped [Char.ofNat (n + 1)] else .valid
  | none => .disallowed

/-- The characters a text maps to, or `none` when one is disallowed. -/
def mapText : List Char → Option (List Char)
  | [] => some []
  | c :: rest => do
    let tail ← mapText rest
    match mapping c with
    | .valid => some (c :: tail)
    | .mapped cs => some (cs ++ tail)
    | .ignored => some tail
    | .disallowed => none

/-- Splits a text at dots. -/
def splitDots (cs : List Char) : List (List Char) :=
  (String.ofList cs).splitOn "." |>.map String.toList

/-- The prefix of a label in Punycode. -/
def acePrefix : List Char := ['x', 'n', '-', '-']

/-- The most characters of Punycode decoded in one label. -/
def maxDecodedLength : Nat := 2000

/-- The most characters of one label encoded in Punycode. -/
def maxEncodedLength : Nat := 1000

/-- The Unicode form of a label that starts with `xn--`, or `none` when it may not be used. -/
def decodeAceLabel (label : List Char) : Option (List Char) := do
  if label.any (·.toNat ≥ 0x80) || label.length - 4 > maxDecodedLength then none
  let decoded ← Punycode.decode (label.drop 4)
  if decoded.all (·.toNat < 0x80) then none
  if !isNfc decoded || acePrefix.isPrefixOf decoded || decoded.contains '.' then none
  if !decoded.all (mapping · == .valid) then none
  pure decoded

/-- A zero width non-joiner. -/
def zwnj : Char := Char.ofNat 0x200C

/-- A zero width joiner. -/
def zwj : Char := Char.ofNat 0x200D

/-- Whether `c` is a virama: of combining class 9. -/
def isVirama (c : Char) : Bool := combiningClass c == 9

/-- Whether the first character of `cs` that is not transparent to joining has one of `types`. -/
def joinsAcross (types : List JoiningType) (cs : List Char) : Bool :=
  match cs.dropWhile (joiningType · == some .transparent) with
  | c :: _ => (joiningType c).any types.contains
  | [] => false

/-- Whether every joiner of a label stands where it may: `before` holds the characters before
the rest, nearest first. -/
def joinersOk (before : List Char) : List Char → Bool
  | [] => true
  | c :: after =>
    let ok :=
      if c == zwnj then
        before.head?.any isVirama ||
          (joinsAcross [.left, .dual] before && joinsAcross [.right, .dual] after)
      else if c == zwj then before.head?.any isVirama
      else true
    ok && joinersOk (c :: before) after

/-- Whether a label holds a character of class right-to-left, Arabic letter or Arabic number. -/
def hasRightToLeft (cs : List Char) : Bool :=
  cs.any fun c => [BidiClass.rightToLeft, .arabicLetter, .arabicNumber].contains (bidiClass c)

/-- The bidirectional rule for one label of a name that holds right-to-left text: it starts
with a strong character and keeps to the classes of its direction; it ends, before any
nonspacing marks, in a strong character of its direction or a digit; and a right-to-left
label does not mix European and Arabic digits. -/
def bidiOk (cs : List Char) : Bool :=
  let classes := cs.map bidiClass
  let last := (classes.reverse.dropWhile (· == .nonspacingMark)).head?
  match classes.head? with
  | none => true
  | some .leftToRight =>
    classes.all ([.leftToRight, .europeanNumber, .europeanSeparator, .commonSeparator,
      .europeanTerminator, .otherNeutral, .boundaryNeutral, .nonspacingMark].contains ·) &&
    last.any ([.leftToRight, .europeanNumber].contains ·)
  | some .rightToLeft | some .arabicLetter =>
    classes.all ([.rightToLeft, .arabicLetter, .arabicNumber, .europeanNumber,
      .europeanSeparator, .commonSeparator, .europeanTerminator, .otherNeutral,
      .boundaryNeutral, .nonspacingMark].contains ·) &&
    last.any ([.rightToLeft, .arabicLetter, .europeanNumber, .arabicNumber].contains ·) &&
    !(classes.contains .europeanNumber && classes.contains .arabicNumber)
  | some _ => false

/-- Whether a label may be used: no leading mark, and joiners where they may stand. -/
def labelOk (label : List Char) : Bool :=
  !(label.head?.any isMark) && joinersOk [] label

/-- ASCII characters a host may not hold: controls, space, DEL and `% # / : < > ? @ [ \ ] ^ |`. -/
def deniedAscii (c : Char) : Bool :=
  c.toNat ≤ 0x20 || c.toNat = 0x7F || "%#/:<>?@[\\]^|".toList.contains c

/-- The ASCII form of a label in Unicode form, or `none` when it is too long to encode. -/
def labelToAscii (label : List Char) : Option (List Char) :=
  if label.all (·.toNat < 0x80) then some label
  else if label.length > maxEncodedLength then none
  else some (acePrefix ++ Punycode.encode label)

/-- The ASCII form of a domain name, or `none` when the name is refused. -/
def domainToAscii (cs : List Char) : Option String := do
  let mapped ← mapText cs
  let labels ← (splitDots (nfc mapped)).mapM fun l =>
    if acePrefix.isPrefixOf l then decodeAceLabel l else some l
  if !labels.all labelOk then none
  if labels.any hasRightToLeft && !labels.all bidiOk then none
  let ascii ← labels.mapM labelToAscii
  let out := ".".intercalate (ascii.map String.ofList)
  if out.toList.any deniedAscii then none
  pure out

end LiveViewer.Url
