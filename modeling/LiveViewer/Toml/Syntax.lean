import LiveViewer.Toml.Document
import LiveViewer.Decimal.Read

/-!
# Reading TOML text

A reader for TOML 1.0 documents that stops at the first fault and says what it was reading
and what it expected there, in the words a user sees:

```
invalid basic string
expected `"`
```

A reader (`Scan`) works on the characters still to read and the byte offset reached. A failure
carries notes (what was being read: a *label*; what would have been accepted: *expected*
items), an optional cause, its byte offset, and whether it is *final*. An alternative tries the
next branch only after a failure that is not final, from the place where the branch began; a
branch that has read far enough to know what it is reading makes its failures final. A
failure found by a check on a value already read (a number out of range, a duplicate key) is
placed where that value began.

The document is read item by item: comments, blank lines, table headers and key/value pairs,
each pair and header handed to the table builder (`LiveViewer.Toml.Builder`) as soon as it is
read.
-/

namespace LiveViewer.Toml

/-- Something the reader would have accepted where it stopped. -/
inductive Expected where
  | char (c : Char)
  | literal (text : String)
  | description (text : String)
  deriving DecidableEq, Repr, Inhabited

/-- How an expected item is named: a character or literal in backticks, a line break as
`newline`, a description as it is. -/
def Expected.text : Expected → String
  | .char '\n' => "newline"
  | .char c => if c == '\x60' then "'`'" else "`" ++ c.toString ++ "`"
  | .literal s => "`" ++ s ++ "`"
  | .description s => s

/-- A note a failure collects on its way out. -/
inductive Note where
  /-- The kind of thing being read. -/
  | label (what : String)
  /-- Something that would have been accepted. -/
  | expected (what : Expected)
  deriving DecidableEq, Repr, Inhabited

/-- Why and where reading stopped. -/
structure Failure where
  /-- The notes, innermost first. -/
  notes : List Note := []
  /-- The fault found by a check, if one was. -/
  cause : Option String := none
  /-- The byte offset of the failure. -/
  pos : Nat
  /-- Whether alternatives are no longer tried. -/
  final : Bool := false
  deriving Repr, Inhabited

/-- The failure's text: `invalid` and the innermost label, then the expected items, then the
cause, each on a line of its own when present. -/
def Failure.message (f : Failure) : String :=
  let label := f.notes.findSome? fun | .label l => some l | _ => none
  let expected := f.notes.filterMap fun | .expected e => some e.text | _ => none
  let lines := (label.map ("invalid " ++ ·)).toList ++
    (if expected.isEmpty then [] else ["expected " ++ ", ".intercalate expected]) ++ f.cause.toList
  "\n".intercalate lines

/-- The characters still to read and the byte offset reached. -/
structure Cursor where
  rest : List Char
  pos : Nat
  deriving Inhabited

/-- A reader. -/
abbrev Scan := StateT Cursor (Except Failure)

namespace Scan

/-- The byte offset reached. -/
def here : Scan Nat := do return (← get).pos

/-- Fails where the reader stands. -/
def stop {α : Type} : Scan α := do throw { pos := (← get).pos }

/-- Fails at `pos` with a cause. -/
def refuse {α : Type} (pos : Nat) (cause : Option String) : Scan α := throw { pos, cause }

/-- The next character, not read. -/
def peek? : Scan (Option Char) := do return (← get).rest.head?

/-- The next `n` characters, not read. -/
def peekN (n : Nat) : Scan (List Char) := do return (← get).rest.take n

/-- Reads the characters `cs`, which stand next. -/
def skip (cs : List Char) : Scan Unit :=
  modify fun s => ⟨s.rest.drop cs.length, s.pos + (String.ofList cs).utf8ByteSize⟩

/-- Reads any one character. -/
def anyChar : Scan Char := do
  match ← peek? with
  | some c => skip [c]; return c
  | none => stop

/-- Reads one character satisfying `p`. -/
def satisfy (p : Char → Bool) : Scan Char := do
  match ← peek? with
  | some c => if p c then do skip [c]; return c else stop
  | none => stop

/-- Reads the character `c`. -/
def char (c : Char) : Scan Unit := discard (satisfy (· == c))

/-- Reads the text `s`. -/
def literal (s : String) : Scan Unit := do
  if s.toList.isPrefixOf (← get).rest then skip s.toList else stop

/-- Reads the longest run of at most `most` characters satisfying `p`; fails, reading nothing,
when the run is shorter than `least`. -/
def run (p : Char → Bool) (least most : Nat) : Scan String := do
  let taken := ((← get).rest.takeWhile p).take most
  if taken.length < least then stop
  skip taken
  return String.ofList taken

/-- Reads the longest run of characters satisfying `p`. -/
def takeWhile (p : Char → Bool) : Scan String := do
  let taken := (← get).rest.takeWhile p
  skip taken
  return String.ofList taken

/-- Reads a nonempty run of characters satisfying `p`. -/
def takeWhile1 (p : Char → Bool) : Scan String := do
  let s ← takeWhile p
  if s.isEmpty then stop else return s

/-- Succeeds at the end of the text. -/
def eof : Scan Unit := do
  if (← get).rest.isEmpty then pure () else stop

/-- `p`, with its failures made final. -/
def final {α : Type} (p : Scan α) : Scan α :=
  tryCatch p fun f => throw { f with final := true }

/-- `p`, with a note added to its failures. -/
def note {α : Type} (n : Note) (p : Scan α) : Scan α :=
  tryCatch p fun f => throw { f with notes := f.notes ++ [n] }

/-- `p`, labelled as reading `what`. -/
def label {α : Type} (what : String) (p : Scan α) : Scan α := note (.label what) p

/-- `p`, expecting `e` when it fails. -/
def expect {α : Type} (e : Expected) (p : Scan α) : Scan α := note (.expected e) p

/-- `p` if it succeeds; nothing, from where it began, if it fails without being final. -/
def opt {α : Type} (p : Scan α) : Scan (Option α) :=
  tryCatch (some <$> p) fun f => if f.final then throw f else pure none

/-- The first branch that succeeds, each tried from the same place; the last failure
otherwise. -/
def alt {α : Type} : List (Scan α) → Scan α
  | [] => stop
  | [p] => p
  | p :: ps => tryCatch p fun f => if f.final then throw f else alt ps

/-- Runs `p` without reading anything. -/
def lookahead {α : Type} (p : Scan α) : Scan α := do
  let s ← get
  let a ← tryCatch p fun f => do set s; throw f
  set s
  return a

/-- `p` as often as it succeeds, at most `n` times. -/
def repeatUpTo {α : Type} (p : Scan α) : Nat → Scan (List α)
  | 0 => pure []
  | n + 1 => do
    let before ← here
    match ← opt p with
    | none => pure []
    | some a => if (← here) == before then pure [a] else return a :: (← repeatUpTo p n)

/-- `p` as often as it succeeds. -/
def many {α : Type} (p : Scan α) : Scan (List α) := do
  repeatUpTo p ((← get).rest.length + 1)

/-- `p` at least once, then as often as it succeeds. -/
def many1 {α : Type} (p : Scan α) : Scan (List α) := do
  let a ← p
  return a :: (← many p)

/-- One or more `p` separated by `sep`. -/
def sepBy1 {α : Type} (p : Scan α) (sep : Scan Unit) : Scan (List α) := do
  let a ← p
  return a :: (← many (do sep; p))

/-- Zero or more `p` separated by `sep`. -/
def sepBy {α : Type} (p : Scan α) (sep : Scan Unit) : Scan (List α) := do
  return (← opt (sepBy1 p sep)).getD []

/-- The text that `p` read. -/
def recognize {α : Type} (p : Scan α) : Scan String := do
  let before ← get
  discard p
  let after ← get
  return String.ofList (before.rest.take (before.rest.length - after.rest.length))

end Scan

open Scan

/-! ## Characters and blanks -/

/-- A space or a tab. -/
def isBlank (c : Char) : Bool := c == ' ' || c == '\t'

/-- A character beyond ASCII. -/
def isNonAscii (c : Char) : Bool := c.toNat ≥ 0x80

/-- A character a comment may hold. -/
def isCommentChar (c : Char) : Bool :=
  c == '\t' || (0x20 ≤ c.toNat && c.toNat ≤ 0x7E) || isNonAscii c

/-- A character of a bare key. -/
def isBareKeyChar (c : Char) : Bool :=
  (c.isAlphanum && c.toNat < 0x80) || c == '-' || c == '_'

/-- A decimal digit. -/
def isDigit (c : Char) : Bool := '0' ≤ c && c ≤ '9'

/-- A hexadecimal digit. -/
def isHexDigit (c : Char) : Bool :=
  isDigit c || ('a' ≤ c && c ≤ 'f') || ('A' ≤ c && c ≤ 'F')

/-- Spaces and tabs. -/
def blanks : Scan String := takeWhile isBlank

/-- A comment up to the end of its line. -/
def comment : Scan Unit := do char '#'; discard (takeWhile isCommentChar)

/-- A line break: a line feed, or a carriage return before one. -/
def newline : Scan Unit := do
  match ← anyChar with
  | '\n' => pure ()
  | '\r' => char '\n'
  | _ => stop

/-- A line break or the end of the text. -/
def lineEnding : Scan Unit := alt [newline, eof]

/-- What may follow a value or header on its line: blanks, a comment, the line's end. -/
def lineTrailing : Scan Unit := do
  discard blanks
  discard (opt comment)
  lineEnding

/-- Blanks and line breaks. -/
def blankLines : Scan Unit :=
  discard (many (alt [newline, discard (takeWhile1 isBlank)]))

/-- A line break, then blanks and line breaks. -/
def lineBreaks : Scan Unit := do newline; blankLines

/-- Blanks, comments and line breaks, at most `n` lines of them: a comment must end its
line. -/
def blanksCommentsLinesUpTo : Nat → Scan Unit
  | 0 => pure ()
  | n + 1 => do
    let before ← here
    discard blanks
    match ← peek? with
    | some '#' => comment; newline
    | some '\n' | some '\r' => newline
    | _ => return ()
    if (← here) == before then return () else blanksCommentsLinesUpTo n

/-- Blanks, comments and line breaks, as inside an array. -/
def blanksCommentsLines : Scan Unit := do
  blanksCommentsLinesUpTo ((← get).rest.length + 1)

/-! ## Strings -/

/-- A character a basic string holds as it is. -/
def isBasicChar (c : Char) : Bool :=
  isBlank c || c.toNat == 0x21 || (0x23 ≤ c.toNat && c.toNat ≤ 0x5B) ||
    (0x5D ≤ c.toNat && c.toNat ≤ 0x7E) || isNonAscii c

/-- A character a literal string holds. -/
def isLiteralChar (c : Char) : Bool :=
  c == '\t' || (0x20 ≤ c.toNat && c.toNat ≤ 0x26) || (0x28 ≤ c.toNat && c.toNat ≤ 0x7E) ||
    isNonAscii c

/-- The value of hexadecimal digits. -/
def hexValue (ds : String) : Nat :=
  ds.foldl (fun acc c =>
    acc * 16 + if isDigit c then c.toNat - 48 else if c ≤ 'F' then c.toNat - 55 else c.toNat - 87) 0

/-- Whether `n` is the code of a character: below `0x110000` and not a surrogate. -/
def isScalar (n : Nat) : Bool := n < 0xD800 || (0xDFFF < n && n < 0x110000)

/-- Exactly `n` hexadecimal digits naming a character. -/
def hexEscape (n : Nat) : Scan Char := do
  let start ← here
  let ds ← run isHexDigit 0 n
  if ds.length != n then refuse start none
  let v := hexValue ds
  if isScalar v then return Char.ofNat v else refuse start (some "value is out of range")

/-- The character named by an escape, after its backslash. -/
def escapeTail : Scan Char := do
  match ← anyChar with
  | 'b' => return '\x08'
  | 'f' => return '\x0c'
  | 'n' => return '\n'
  | 'r' => return '\r'
  | 't' => return '\t'
  | 'u' => label "unicode 4-digit hex code" (final (hexEscape 4))
  | 'U' => label "unicode 8-digit hex code" (final (hexEscape 8))
  | '\\' => return '\\'
  | '"' => return '"'
  | _ =>
    let accepted := ['b', 'f', 'n', 'r', 't', 'u', 'U', '\\', '"']
    accepted.foldl (fun p c => expect (.char c) p) (label "escape sequence" (final stop))

/-- An escape: a backslash and what it names. -/
def escape : Scan Char := do char '\\'; escapeTail

/-- A piece of a basic string. -/
def basicPiece : Scan String :=
  alt [takeWhile1 isBasicChar, (·.toString) <$> escape]

/-- A basic string: in double quotes, with escapes. -/
def basicString : Scan String := do
  char '"'
  let pieces ← many basicPiece
  label "basic string" (final (char '"'))
  return String.join pieces

/-- A literal string: in single quotes, as written. -/
def literalString : Scan String := label "literal string" do
  char '\''
  let s ← final (takeWhile isLiteralChar)
  final (char '\'')
  return s

/-- One or two quote characters `q` that do not close a multi-line string: `more` must
follow them. -/
def innerQuotes (q : Char) (more : Scan Unit) : Scan String :=
  alt [do char q; char q; lookahead more; return String.ofList [q, q],
       do char q; lookahead more; return q.toString]

/-- Runs of pieces after lone or paired quotes `q` in a multi-line basic string, at most `n`
of them; quotes that no piece follows end the runs and are dropped. -/
def basicRunsUpTo (piece : Scan String) : Nat → Scan String
  | 0 => pure ""
  | n + 1 => do
    match ← opt (innerQuotes '"' (discard (satisfy (· != '"')))) with
    | none => pure ""
    | some qs =>
      match ← opt piece with
      | none => pure ""
      | some p => do
        let ps ← many piece
        return qs ++ p ++ String.join ps ++ (← basicRunsUpTo piece n)

/-- The body of a multi-line basic string: pieces, runs of pieces after lone or paired quotes,
and up to two quotes before the closing three. -/
def multiLineBasicBody (piece : Scan String) : Scan String := do
  let first ← many piece
  let middle ← basicRunsUpTo piece ((← get).rest.length + 1)
  let last ← opt (innerQuotes '"' (do char '"'; char '"'; char '"'))
  return String.join first ++ middle ++ last.getD ""

/-- The body of a multi-line literal string: pieces, runs of pieces after lone or paired
quotes, and up to two quotes before the closing three. -/
def multiLineLiteralBody (piece : Scan String) : Scan String := do
  let first ← many piece
  let middle ← many do
    let qs ← innerQuotes '\'' (discard (satisfy (· != '\'')))
    let ps ← many1 piece
    return qs ++ String.join ps
  let last ← opt (innerQuotes '\'' (do char '\''; char '\''; char '\''))
  return String.join first ++ String.join middle ++ last.getD ""

/-- A backslash ending a line in a multi-line basic string, with the blanks and line breaks
after it. -/
def lineContinuation : Scan Unit :=
  discard (many1 do char '\\'; discard blanks; lineBreaks)

/-- A piece of a multi-line basic string. -/
def multiLineBasicPiece : Scan String :=
  alt [takeWhile1 isBasicChar, lineContinuation *> pure "", (·.toString) <$> escape,
    newline *> pure "\n"]

/-- A piece of a multi-line literal string. -/
def multiLineLiteralPiece : Scan String :=
  alt [(·.toString) <$> satisfy isLiteralChar, newline *> pure "\n"]

/-- A multi-line string delimited by three `q`; a line break right after the opening is
dropped. -/
def multiLineString (q : Char) (what : String) (body : Scan String) : Scan String :=
  label what do
    char q; char q; char q
    discard (opt newline)
    let body ← final body
    final (do char q; char q; char q)
    return body

/-- Any of the four kinds of string. -/
def string : Scan String :=
  alt [multiLineString '"' "multiline basic string" (multiLineBasicBody multiLineBasicPiece),
    basicString,
    multiLineString '\'' "multiline literal string" (multiLineLiteralBody multiLineLiteralPiece),
    literalString]

/-! ## Keys -/

/-- A key without dots: bare, or a basic or literal string. -/
def simpleKey : Scan Key := do
  let before ← get
  let name ← match ← peek? with
    | some '"' => basicString
    | some '\'' => literalString
    | _ => takeWhile1 isBareKeyChar
  let after ← get
  let raw := String.ofList (before.rest.take (before.rest.length - after.rest.length))
  return { name, raw, span := ⟨before.pos, after.pos⟩ }

/-- How deeply arrays and inline tables may nest, and how many parts a dotted key may have:
a document past either is refused rather than read. -/
def nestingLimit : Nat := 80

/-- The failure of a document that nests too deeply. -/
def tooDeep {α : Type} (pos : Nat) (isFinal : Bool) : Scan α :=
  throw { pos, cause := some "recursion limit exceeded", final := isFinal }

/-- A dotted key: simple keys separated by dots, with blanks around each, fewer than
`nestingLimit` of them. -/
def key : Scan (List Key) := do
  let start ← here
  let path ← label "key"
    (sepBy1 (do discard blanks; let k ← simpleKey; discard blanks; return k) (char '.'))
  if path.length ≥ nestingLimit then tooDeep start false
  return path

/-! ## Numbers -/

/-- A sign. -/
def sign : Scan Char := satisfy fun c => c == '+' || c == '-'

/-- Digits that may be grouped by single underscores, each followed by a digit. -/
def groupedDigits (first : Char → Bool) : Scan Unit := do
  discard (satisfy first)
  discard (many (alt [discard (satisfy isDigit),
    do char '_'; expect (.description "digit") (final (discard (satisfy isDigit)))]))

/-- A decimal integer's text: a sign, and digits without a leading zero. -/
def decimalText : Scan String :=
  label "integer" (recognize do
    discard (opt sign)
    alt [groupedDigits fun c => '1' ≤ c && c ≤ '9', discard (satisfy isDigit)])

/-- The underscores of a number's text, removed. -/
def ungrouped (s : String) : String := String.ofList (s.toList.filter (· != '_'))

/-- The least and greatest 64-bit signed integers. -/
def minInt64 : Int := -9223372036854775808
def maxInt64 : Int := 9223372036854775807

/-- A value checked against the 64-bit signed range. -/
def inInt64 (v : Int) : Except String Int :=
  if v > maxInt64 then .error "number too large to fit in target type"
  else if v < minInt64 then .error "number too small to fit in target type"
  else .ok v

/-- The value of a decimal integer's text. -/
def decimalValue (s : String) : Int :=
  match s.toList with
  | '-' :: ds => -((String.ofList ds).foldl (fun acc c => acc * 10 + (c.toNat - 48)) 0 : Nat)
  | '+' :: ds => ((String.ofList ds).foldl (fun acc c => acc * 10 + (c.toNat - 48)) 0 : Nat)
  | ds => ((String.ofList ds).foldl (fun acc c => acc * 10 + (c.toNat - 48)) 0 : Nat)

/-- An integer with a radix prefix: the digits after the prefix, grouped. -/
def prefixedDigits (what : String) (digit : Char → Bool) : Scan String :=
  label what do
    skip (← peekN 2)
    final (recognize do
      discard (satisfy digit)
      discard (many (alt [discard (satisfy digit),
        do char '_'; expect (.description "digit") (final (discard (satisfy digit)))])))

/-- An integer: hexadecimal, octal or binary after its prefix, or decimal. -/
def integer : Scan Int := do
  let start ← here
  let prefixed (what : String) (radix : Nat) (digit : Char → Bool) : Scan Int := final do
    let ds ← prefixedDigits what digit
    let v := (ungrouped ds).foldl (fun acc c =>
      acc * radix + if isDigit c then c.toNat - 48 else if c ≤ 'F' then c.toNat - 55 else c.toNat - 87) 0
    match inInt64 v with
    | .ok v => return v
    | .error cause => refuse start (some cause)
  match ← peekN 2 with
  | ['0', 'x'] => prefixed "hexadecimal integer" 16 isHexDigit
  | ['0', 'o'] => prefixed "octal integer" 8 fun c => '0' ≤ c && c ≤ '7'
  | ['0', 'b'] => prefixed "binary integer" 2 fun c => c == '0' || c == '1'
  | _ =>
    let s ← decimalText
    match inInt64 (decimalValue (ungrouped s)) with
    | .ok v => return v
    | .error cause => throw { pos := start, cause := some cause, final := true }

/-- Digits after a point or exponent mark: a leading zero is allowed. -/
def trailingDigits : Scan Unit := groupedDigits isDigit

/-- An exponent part. -/
def exponentPart : Scan Unit := do
  discard (satisfy fun c => c == 'e' || c == 'E')
  discard (opt sign)
  final trailingDigits

/-- A fractional part. -/
def fractionPart : Scan Unit := do
  char '.'
  expect (.description "digit") (final trailingDigits)

/-- `inf` or `nan`, with an optional sign. -/
def specialFloat : Scan Float := do
  let s ← opt sign
  let x ← alt [literal "inf" *> pure (1.0 / 0.0), literal "nan" *> pure (0.0 / 0.0)]
  return if s == some '-' then -x else x

/-- A float: an integer part with a fraction, an exponent or both, or a special value. A
decimal that rounds to positive infinity is refused. -/
def float : Scan Float :=
  label "floating-point number" (alt [
    do
      let start ← here
      let text ← recognize do
        discard decimalText
        alt [exponentPart, do fractionPart; discard (opt exponentPart)]
      match Decimal.readFloat (ungrouped text) with
      | .ok x =>
        if x.isInf && x > 0 then throw { pos := start, final := true } else return x
      | .error _ => throw { pos := start, cause := some "invalid float literal", final := true },
    specialFloat])

/-! ## Dates and times -/

/-- Exactly `n` digits. -/
def digitsN (n : Nat) : Scan Nat := do
  let ds ← run isDigit n n
  return ds.foldl (fun acc c => acc * 10 + (c.toNat - 48)) 0

/-- Two digits between `lo` and `hi`. -/
def twoDigitsIn (lo hi : Nat) : Scan Nat := do
  let start ← here
  let v ← digitsN 2
  if lo ≤ v && v ≤ hi then return v else refuse start (some "value is out of range")

/-- A date: year, month and a day that exists in that month. -/
def fullDate : Scan Unit := do
  let year ← digitsN 4
  char '-'
  let month ← final (twoDigitsIn 1 12)
  final (char '-')
  let dayStart ← here
  let day ← final (twoDigitsIn 1 31)
  let leap := year % 4 == 0 && (year % 100 != 0 || year % 400 == 0)
  let days := if month == 2 then (if leap then 29 else 28)
    else if month == 4 || month == 6 || month == 9 || month == 11 then 30 else 31
  if days < day then throw { pos := dayStart, cause := some "value is out of range", final := true }

/-- A time of day, with optional fractional seconds. -/
def partialTime : Scan Unit := do
  discard (twoDigitsIn 0 23)
  char ':'
  final do
    discard (twoDigitsIn 0 59)
    char ':'
    discard (twoDigitsIn 0 60)
    discard (opt do char '.'; discard (takeWhile1 isDigit))

/-- A time offset: `Z`, or a signed hour and minute. -/
def timeOffset : Scan Unit :=
  label "time offset" (alt [discard (satisfy fun c => c == 'Z' || c == 'z'),
    do
      discard sign
      final do discard (twoDigitsIn 0 23); char ':'; discard (twoDigitsIn 0 59)])

/-- A date with an optional time and offset, or a time alone; its text. -/
def dateTime : Scan String :=
  recognize (alt [
    label "date-time" do
      fullDate
      discard (opt do
        discard (satisfy fun c => c == 'T' || c == 't' || c == ' ')
        partialTime
        discard (opt timeOffset)),
    label "time" partialTime])

/-! ## Values -/

/-- How a value that starts with a letter other than the literals is refused. -/
def asString {α : Type} (p : Scan α) : Scan α :=
  expect (.char '\'') (expect (.char '"') (label "string" p))

/-- A literal word, once its first letter is seen. -/
def word {α : Type} (w : String) (v : α) : Scan α := do
  final (literal w)
  return v

/-- The items of an array, read with `item`: separated by commas, with an optional trailing
comma, and blanks, comments and line breaks around each. -/
def arrayItems (item : Scan Item) : Scan (List Item) := do
  let items ← opt do
    let vs ← sepBy1 (do blanksCommentsLines; let v ← item; blanksCommentsLines; return v) (char ',')
    discard (opt (char ','))
    return vs
  blanksCommentsLines
  return items.getD []

/-- A key/value pair inside an inline table, its value read with `item`: the dotted part of
the key, the last key, and the value. -/
def inlinePair (item : Scan Item) : Scan (List Key × Key × Item) := do
  let path ← key
  final do
    expect (.char '=') (expect (.char '.') (char '='))
    discard blanks
    let v ← item
    discard blanks
    match path.getLast? with
    | some k => return (path.dropLast, k, v)
    | none => stop

/-- A value; `room` counts the arrays and inline tables that may still open inside it. -/
def value (room : Nat) : Scan Item := do
  let start ← here
  let spanned (f : Span → Item) : Scan Item := do return f ⟨start, ← here⟩
  match ← peek? with
  | some '"' | some '\'' => do let s ← string; spanned (.string s)
  | some '[' => do
    char '['
    let items ← match room with
      | 0 => tooDeep (← here) true
      | r + 1 => final (arrayItems (value r))
    expect (.char ']') (label "array" (final (char ']')))
    spanned (.array items)
  | some '{' => do
    char '{'
    let inner ← here
    let pairs ← match room with
      | 0 => tooDeep inner true
      | r + 1 => final do
        let ps ← sepBy (inlinePair (value r)) (char ',')
        discard blanks
        return ps
    let entries ← match inlineEntries pairs with
      | .ok es => pure es
      | .error e => throw { pos := inner, cause := some e.message, final := true }
    expect (.char '}') (label "inline table" (final (char '}')))
    spanned fun sp => .inlineTable entries false false (some sp)
  | some '_' => do
    let v ← expect (.description "leading digit") integer
    spanned (.integer v)
  | some '.' => do
    let v ← expect (.description "leading digit") float
    spanned (.float v)
  | some 't' => do let b ← asString (word "true" true); spanned (.boolean b)
  | some 'f' => do let b ← asString (word "false" false); spanned (.boolean b)
  | some 'i' => do let x ← asString (literal "inf" *> pure (1.0 / 0.0)); spanned (.float x)
  | some 'n' => do let x ← asString (literal "nan" *> pure (0.0 / 0.0)); spanned (.float x)
  | some c =>
    if c == '+' || c == '-' || isDigit c then
      alt [do let t ← dateTime; spanned (.datetime t),
        do let x ← float; spanned (.float x),
        do let v ← integer; spanned (.integer v)]
    else asString stop
  -- at the end of the text nothing is expected: the failure carries no notes
  | none => stop

/-! ## Documents -/

/-- A key/value pair at the top level of a document or table, with what may follow it on its
line. -/
def pair : Scan (List Key × Key × Item) := do
  let path ← key
  final do
    expect (.char '=') (expect (.char '.') (char '='))
    discard blanks
    let v ← value (nestingLimit - 1)
    expect (.char '#') (expect (.char '\n') lineTrailing)
    match path.getLast? with
    | some k => return (path.dropLast, k, v)
    | none => stop

/-- A table header, `[path]` when `array` is false and `[[path]]` when it is true: its path
and where it stands. -/
def header (array : Bool) : Scan (List Key × Span) := do
  let start ← here
  let closing := if array then "]]" else "]"
  literal (if array then "[[" else "[")
  let path ← final key
  expect (.literal closing) (expect (.char '.') (final (literal closing)))
  let span : Span := ⟨start, ← here⟩
  expect (.char '#') (expect (.char '\n') (final lineTrailing))
  return (path, span)

/-- One item of a document, handed to the builder: a comment, a header, a blank line or a
key/value pair. -/
def documentItem (b : Builder) : Scan Builder := do
  let start ← here
  let built (r : Except BuildError Builder) (notes : List Note) : Scan Builder :=
    match r with
    | .ok b => pure b
    | .error e => throw { pos := start, notes, cause := some e.message, final := true }
  match ← peek? with
  | some '#' => do final (do comment; lineEnding); return b
  | some '[' => final do
    let two ← peekN 2
    label "table header" do
      if two.length < 2 then stop
      if two == ['[', '['] then
        let (path, span) ← header true
        built (b.onArrayHeader path span) []
      else
        let (path, span) ← header false
        built (b.onStdHeader path span) []
  | some '\n' | some '\r' => do newline; return b
  | none => stop
  | some _ => do
    let (path, k, v) ← final pair
    built (b.onKeyval path k v) []

/-- Items of a document, each followed by blanks, at most `n` of them. -/
def documentItems : Nat → Builder → Scan Builder
  | 0, b => pure b
  | n + 1, b => do
    let before ← here
    match ← opt (do let b ← documentItem b; discard blanks; return b) with
    | none => pure b
    | some b' => if (← here) == before then pure b' else documentItems n b'

/-- A whole document: an optional byte order mark, blanks, then items up to the end. -/
def document : Scan Builder := do
  discard (opt (char '\uFEFF'))
  discard blanks
  let n := (← get).rest.length + 1
  let b ← documentItems n {}
  eof
  return b

/-- Reads a document into its root table; a failure of table building at the end is not
placed. -/
def readDocument (text : String) : Except (Failure ⊕ BuildError) Item :=
  match StateT.run document ⟨text.toList, 0⟩ with
  | .error f => .error (.inl f)
  | .ok (b, _) =>
    match b.finish with
    | .ok t => .ok t.toItem
    | .error e => .error (.inr e)

end LiveViewer.Toml
