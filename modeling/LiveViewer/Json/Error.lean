import LiveViewer.Json.Value
import LiveViewer.Text.Quoted

/-!
# Why a JSON text was refused

A refusal is either a fault of the text itself (a missing comma, a bad escape, an unfinished
literal), or a fault of the data: the text is JSON, but not of the expected shape (a string
where a number belongs, an unknown variant, a missing field). A text fault is placed where
the reader stood; a data fault is placed where the value that carried it ends.

A place is shown as a line (counting from one) and a column, the number of bytes of that line
read so far. Some faults are reported some bytes further (`Place.into`): one byte into the
character the reader looked at, or after the four bytes of a bad `\u` escape.
-/

namespace LiveViewer.Json

/-- What a reader found where it expected something else. -/
inductive Unexpected where
  | bool (b : Bool)
  | unsigned (n : Nat)
  | signed (n : Int)
  | float (x : Float)
  | str (s : String)
  | unit
  | unitVariant
  | seq
  | map
  deriving Inhabited

/-- How the unexpected value is named in a message. -/
def Unexpected.describe : Unexpected → String
  | .bool b => "boolean `" ++ (if b then "true" else "false") ++ "`"
  | .unsigned n => "integer `" ++ toString n ++ "`"
  | .signed n => "integer `" ++ toString n ++ "`"
  | .float x => "floating point `" ++ floatStyle.write x ++ "`"
  | .str s => "string " ++ Text.quote s
  | .unit => "null"
  | .unitVariant => "unit variant"
  | .seq => "sequence"
  | .map => "map"

/-- A list of names as `a`, `a` or `b`, or one of `a`, `b`, `c`. -/
def oneOf (names : List String) : String :=
  let tick (s : String) := "`" ++ s ++ "`"
  match names with
  | [] => "nothing"
  | [a] => tick a
  | [a, b] => tick a ++ " or " ++ tick b
  | _ => "one of " ++ ", ".intercalate (names.map tick)

/-- The cause of a refusal. -/
inductive Problem where
  | eofWhileParsingList
  | eofWhileParsingObject
  | eofWhileParsingString
  | eofWhileParsingValue
  | expectedColon
  | expectedListCommaOrEnd
  | expectedObjectCommaOrEnd
  | expectedSomeIdent
  | expectedSomeValue
  | invalidEscape
  | invalidNumber
  | numberOutOfRange
  | controlCharacterInString
  | keyMustBeAString
  | loneLeadingSurrogate
  | trailingComma
  | trailingCharacters
  | unexpectedEndOfHexEscape
  | recursionLimitExceeded
  /-- A value of the wrong kind; `expected` names the right one. -/
  | invalidType (found : Unexpected) (expected : String)
  /-- A value of the right kind out of range. -/
  | invalidValue (found : Unexpected) (expected : String)
  /-- A sequence with too few items. -/
  | invalidLength (count : Nat) (expected : String)
  | unknownVariant (name : String) (known : List String)
  | missingField (name : String)
  | duplicateField (name : String)
  deriving Inhabited

/-- Whether the problem is one of the data rather than of the text. -/
def Problem.isData : Problem → Bool
  | .invalidType .. | .invalidValue .. | .invalidLength .. | .unknownVariant ..
  | .missingField .. | .duplicateField .. => true
  | _ => false

/-- The message of a problem. -/
def Problem.message : Problem → String
  | .eofWhileParsingList => "EOF while parsing a list"
  | .eofWhileParsingObject => "EOF while parsing an object"
  | .eofWhileParsingString => "EOF while parsing a string"
  | .eofWhileParsingValue => "EOF while parsing a value"
  | .expectedColon => "expected `:`"
  | .expectedListCommaOrEnd => "expected `,` or `]`"
  | .expectedObjectCommaOrEnd => "expected `,` or `\x7d`"
  | .expectedSomeIdent => "expected ident"
  | .expectedSomeValue => "expected value"
  | .invalidEscape => "invalid escape"
  | .invalidNumber => "invalid number"
  | .numberOutOfRange => "number out of range"
  | .controlCharacterInString => "control character (\\u0000-\\u001F) found while parsing a string"
  | .keyMustBeAString => "key must be a string"
  | .loneLeadingSurrogate => "lone leading surrogate in hex escape"
  | .trailingComma => "trailing comma"
  | .trailingCharacters => "trailing characters"
  | .unexpectedEndOfHexEscape => "unexpected end of hex escape"
  | .recursionLimitExceeded => "recursion limit exceeded"
  | .invalidType u e => "invalid type: " ++ u.describe ++ ", expected " ++ e
  | .invalidValue u e => "invalid value: " ++ u.describe ++ ", expected " ++ e
  | .invalidLength n e => "invalid length " ++ toString n ++ ", expected " ++ e
  | .unknownVariant v known => "unknown variant `" ++ v ++ "`, expected " ++ oneOf known
  | .missingField f => "missing field `" ++ f ++ "`"
  | .duplicateField f => "duplicate field `" ++ f ++ "`"

/-- Where in the text a fault lies: before the last `rest` characters, and `into` bytes into
them. -/
structure Place where
  /-- The number of characters after the place. -/
  rest : Nat
  /-- How many bytes of those characters lie before the place. -/
  into : Nat
  deriving Inhabited

/-- A refusal, placed once known. -/
structure Fault where
  /-- The cause. -/
  problem : Problem
  /-- The place, if known. -/
  place : Option Place
  deriving Inhabited

/-- A refusal as reported: the cause, and its line and column (line `0` when unplaced). -/
structure Error where
  /-- The cause. -/
  problem : Problem
  /-- The line, from one; `0` when the fault has no place. -/
  line : Nat
  /-- The bytes of the line before the place. -/
  column : Nat
  deriving Inhabited

/-- The message with its place. -/
def Error.message (e : Error) : String :=
  if e.line = 0 then e.problem.message
  else e.problem.message ++ " at line " ++ toString e.line ++ " column " ++ toString e.column

/-- Line and column after reading `cs`: lines counted from one, the column in bytes. -/
def lineColumn (cs : List Char) : Nat × Nat :=
  cs.foldl (fun (l, c) ch => if ch = '\n' then (l + 1, 0) else (l, c + ch.utf8Size)) (1, 0)

/-- Line and column `(l, c)` moved on by the first `n` bytes of `cs`; a character cut by the
last byte moves the column by the bytes taken of it. -/
def advanceBytes : Nat → List Char → Nat × Nat → Nat × Nat
  | 0, _, lc => lc
  | _, [], lc => lc
  | n + 1, ch :: cs, (l, c) =>
    if ch.utf8Size ≤ n + 1 then
      advanceBytes (n + 1 - ch.utf8Size) cs (if ch = '\n' then (l + 1, 0) else (l, c + ch.utf8Size))
    else (l, c + n + 1)

/-- The reported form of a fault in the text `input`. -/
def Fault.locate (f : Fault) (input : List Char) : Error :=
  match f.place with
  | none => ⟨f.problem, 0, 0⟩
  | some p =>
    let (l, c) := advanceBytes p.into (input.drop (input.length - p.rest))
      (lineColumn (input.take (input.length - p.rest)))
    ⟨f.problem, l, c⟩

end LiveViewer.Json
