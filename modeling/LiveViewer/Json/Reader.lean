import LiveViewer.Json.Error

/-!
# Reading JSON text

A reader walks the text not yet read, a list of characters, and keeps how many more arrays
and objects may still open. It stops at the first fault, keeping its place so that a caller
can finish a container before the fault is reported.

This module reads the scalars: blanks, the literals `null`, `true` and `false`, numbers and
strings. A number is kept as a 64-bit unsigned integer while it fits, as a 64-bit signed one
when it is negative and fits, and as a double otherwise: the significand read so far, scaled by
one multiplication or division by a power of ten (digits past the 64th bit of the significand
are dropped, so the double is the nearest one to the truncated decimal). A string is read with
its escapes; a surrogate escape must be followed by its partner.
-/

namespace LiveViewer.Json

/-- Where a reader stands. -/
structure Cursor where
  /-- The text not yet read. -/
  rest : List Char
  /-- How many more arrays and objects may open. -/
  depth : Nat

/-- A reader of the text: it keeps its place also when it fails. -/
abbrev Reader := EStateM Fault Cursor

namespace Reader

/-- The next character, not consumed. -/
def peek : Reader (Option Char) := do return (← get).rest.head?

/-- The next character, or NUL at the end; not consumed. -/
def peekOrNull : Reader Char := do return (← get).rest.head?.getD '\x00'

/-- Consumes one character. -/
def bump : Reader Unit := modify fun c => { c with rest := c.rest.drop 1 }

/-- Consumes and returns the next character. -/
def next : Reader (Option Char) := do
  let c ← get
  match c.rest with
  | [] => pure none
  | ch :: r =>
    set { c with rest := r }
    pure (some ch)

/-- The place where the reader stands, moved on by `into` bytes. -/
def here (into : Nat) : Reader Place := do return ⟨(← get).rest.length, into⟩

/-- Fails where the reader stands. -/
def fail {α : Type} (p : Problem) : Reader α := do throw ⟨p, some (← here 0)⟩

/-- Fails one byte into the character the reader looks at. -/
def failPeek {α : Type} (p : Problem) : Reader α := do throw ⟨p, some (← here 1)⟩

/-- Fails for a fault of the data, to be placed by the caller. -/
def failData {α : Type} (p : Problem) : Reader α := throw ⟨p, none⟩

/-- Places an unplaced fault of `r` where the reader stands when `r` fails. -/
def placed {α : Type} (r : Reader α) : Reader α :=
  tryCatch r fun e =>
    match e.place with
    | some _ => throw e
    | none => do throw ⟨e.problem, some (← here 0)⟩

/-- Runs `r` and returns its outcome, without failing. -/
def attempt {α : Type} (r : Reader α) : Reader (Except Fault α) :=
  tryCatch (Except.ok <$> r) fun e => pure (.error e)

/-- JSON blanks: space, line feed, tab and carriage return. -/
def isBlank (c : Char) : Bool := c = ' ' || c = '\n' || c = '\t' || c = '\r'

/-- Skips blanks and returns the next character. -/
def skipBlank : Reader (Option Char) := do
  modify fun c => { c with rest := c.rest.dropWhile isBlank }
  peek

/-- Reads the rest of a literal whose first character was read. -/
def literal : List Char → Reader Unit
  | [] => pure ()
  | c :: cs => do
    match ← next with
    | none => fail .eofWhileParsingValue
    | some d => if d = c then literal cs else fail .expectedSomeIdent

/-- Whether `c` is an ASCII digit. -/
def isDigit (c : Char) : Bool := '0' ≤ c && c ≤ '9'

/-- The value of a digit. -/
def digitValue (c : Char) : Nat := c.toNat - 48

/-- Consumes a run of digits and returns it. -/
def digits : Reader (List Char) := do
  let c ← get
  let ds := c.rest.takeWhile isDigit
  set { c with rest := c.rest.drop ds.length }
  pure ds

/-- The largest unsigned 64-bit value. -/
def u64Max : Nat := 18446744073709551615

/-- The largest signed 32-bit value. -/
def i32Max : Int := 2147483647

/-- Whether `a * 10 + d` would pass `lim`. -/
def overflows (a d lim : Nat) : Bool := a ≥ lim / 10 && (a > lim / 10 || d > lim % 10)

/-- `10^i` as a double, for `i ≤ 308`. -/
def pow10 (i : Nat) : Float := Float.ofScientific 1 false i

/-- An exponent sum clamped to the signed 32-bit range. -/
def clampExp (e : Int) : Int := max (-2147483648) (min i32Max e)

/-- The double `significand · 10^exponent`: one multiplication or division by a power of ten
up to `10^308`; below that the value is first divided by `10^308`, and a product too large for
a double is a fault. -/
def scaled (positive : Bool) (significand : Nat) (exponent : Int) : Reader Float := do
  let rec go : Nat → Float → Int → Reader Float
    | 0, f, _ => pure f
    | fuel + 1, f, e =>
      if e.natAbs ≤ 308 then
        if 0 ≤ e then
          let g := f * pow10 e.natAbs
          if g.isInf then fail .numberOutOfRange else pure g
        else pure (f / pow10 e.natAbs)
      else if f == 0.0 then pure f
      else if 0 ≤ e then fail .numberOutOfRange
      else go fuel (f / 1e308) (e + 308)
  let f ← go 8 (Float.ofNat significand) exponent
  pure (if positive then f else -f)

/-- Reads the exponent part after the significand, from the `e`. -/
def exponentPart (positive : Bool) (significand : Nat) (start : Int) : Reader Float := do
  bump
  let sign ← peekOrNull
  let positiveExp := sign != '-'
  if sign = '+' || sign = '-' then bump
  match ← next with
  | none => fail .eofWhileParsingValue
  | some c =>
    if !isDigit c then fail .invalidNumber
    else
      let ds := (← get).rest.takeWhile isDigit
      -- the digits are read one by one; the first that overflows ends the number
      let rec walk : List Char → Nat → Reader (Option Nat)
        | [], e => pure (some e)
        | d :: rest, e => do
          bump
          if overflows e (digitValue d) i32Max.toNat then pure none
          else walk rest (e * 10 + digitValue d)
      match ← walk ds (digitValue c) with
      | some e =>
        let final := clampExp (if positiveExp then start + e else start - e)
        scaled positive significand final
      | none =>
        if significand ≠ 0 && positiveExp then fail .numberOutOfRange
        else
          let _ ← digits
          pure (if positive then 0.0 else -0.0)

/-- Reads the fraction after the significand, from the point. -/
def fractionPart (positive : Bool) (significand : Nat) (start : Int) : Reader Float := do
  bump
  let ds := (← get).rest.takeWhile isDigit
  -- digits are taken into the significand until one would overflow it
  let rec walk : List Char → Nat → Nat → Nat × Nat × Bool
    | [], s, k => (s, k, false)
    | d :: rest, s, k =>
      if overflows s (digitValue d) u64Max then (s, k, true)
      else walk rest (s * 10 + digitValue d) (k + 1)
  let (s, k, overflowed) := walk ds significand 0
  let _ ← digits
  if !overflowed && k = 0 then
    match ← peek with
    | some _ => failPeek .invalidNumber
    | none => failPeek .eofWhileParsingValue
  else
    let e := start - k
    if (← peekOrNull) = 'e' || (← peekOrNull) = 'E' then exponentPart positive s e
    else scaled positive s e

/-- The number after a significand that did not overflow. -/
def afterSignificand (positive : Bool) (significand : Nat) : Reader Number := do
  let c ← peekOrNull
  if c = '.' then return .float (← fractionPart positive significand 0)
  else if c = 'e' || c = 'E' then return .float (← exponentPart positive significand 0)
  else if positive then return .posInt significand.toUInt64
  else if significand = 0 || significand > 9223372036854775808 then
    return .float (-(Float.ofNat significand))
  else return .negInt (Int64.ofInt (-(significand : Int)))

/-- Reads a number after its sign. -/
def number (positive : Bool) : Reader Number := do
  match ← next with
  | none => fail .eofWhileParsingValue
  | some c =>
    if c = '0' then
      if isDigit (← peekOrNull) then failPeek .invalidNumber
      else afterSignificand positive 0
    else if isDigit c then
      let ds := (← get).rest.takeWhile isDigit
      -- digits go into the significand until one would overflow it; the rest scale it
      let rec walk : List Char → Nat → Nat → Nat × Nat
        | [], s, extra => (s, extra)
        | d :: rest, s, extra =>
          if extra > 0 then walk rest s (extra + 1)
          else if overflows s (digitValue d) u64Max then walk rest s 1
          else walk rest (s * 10 + digitValue d) 0
      let (s, extra) := walk ds (digitValue c) 0
      let _ ← digits
      if extra = 0 then afterSignificand positive s
      else
        let c ← peekOrNull
        if c = '.' then return .float (← fractionPart positive s extra)
        else if c = 'e' || c = 'E' then return .float (← exponentPart positive s extra)
        else return .float (← scaled positive s extra)
    else fail .invalidNumber

/-- The value of a hexadecimal digit. -/
def hexValue (c : Char) : Option Nat :=
  if '0' ≤ c && c ≤ '9' then some (c.toNat - 48)
  else if 'a' ≤ c && c ≤ 'f' then some (c.toNat - 87)
  else if 'A' ≤ c && c ≤ 'F' then some (c.toNat - 55)
  else none

/-- Fails at a character that cannot continue an escape: just after it when it is one
byte long, one byte into it otherwise. -/
def failAt {α : Type} (c : Char) (p : Problem) : Reader α :=
  if c.toNat < 0x80 then do bump; fail p else failPeek p

/-- The characters of `cs` that its first `n` bytes cover whole, and how many bytes they take
of the character after those. -/
def takeBytes : Nat → List Char → List Char × Nat
  | 0, _ => ([], 0)
  | _, [] => ([], 0)
  | n + 1, ch :: cs =>
    if ch.utf8Size ≤ n + 1 then
      let (whole, part) := takeBytes (n + 1 - ch.utf8Size) cs
      (ch :: whole, part)
    else ([], n + 1)

/-- Reads the four hexadecimal digits of a `\u` escape: four bytes are taken before they are
looked at, and fewer than four left end the text. -/
def hex4 : Reader Nat := do
  let cur ← get
  if (String.ofList cur.rest).utf8ByteSize < 4 then
    set { cur with rest := [] }
    fail .eofWhileParsingString
  else
    let (whole, part) := takeBytes 4 cur.rest
    let after := cur.rest.drop whole.length
    match whole.mapM hexValue with
    | some [a, b, c, d] => do
      set { cur with rest := after }
      pure (((a * 16 + b) * 16 + c) * 16 + d)
    | _ => throw ⟨.invalidEscape, some ⟨after.length, part⟩⟩

/-- Expects the character `c` inside a surrogate pair. -/
def expectInPair (c : Char) : Reader Unit := do
  match ← peek with
  | none => fail .eofWhileParsingString
  | some d => if d = c then bump else failAt d .unexpectedEndOfHexEscape

/-- Reads a `\u` escape after the `u`: a character of the basic plane, or a surrogate pair. -/
def unicodeEscape : Reader Char := do
  let n ← hex4
  if 0xDC00 ≤ n && n ≤ 0xDFFF then fail .loneLeadingSurrogate
  else if n < 0xD800 || n > 0xDBFF then pure (Char.ofNat n)
  else
    expectInPair '\\'
    expectInPair 'u'
    let n2 ← hex4
    if n2 < 0xDC00 || n2 > 0xDFFF then fail .loneLeadingSurrogate
    else pure (Char.ofNat ((n - 0xD800) * 0x400 + (n2 - 0xDC00) + 0x10000))

/-- Reads an escape after the backslash. -/
def escape : Reader Char := do
  match ← next with
  | none => fail .eofWhileParsingString
  | some c =>
    match c with
    | '"' => pure '"'
    | '\\' => pure '\\'
    | '/' => pure '/'
    | 'b' => pure (Char.ofNat 8)
    | 'f' => pure (Char.ofNat 12)
    | 'n' => pure '\n'
    | 'r' => pure '\r'
    | 't' => pure '\t'
    | 'u' => unicodeEscape
    | _ => fail .invalidEscape

/-- Reads a string after its opening quote, up to and including the closing quote. -/
def stringBody : Reader String := do
  let rec go : Nat → List Char → Reader String
    | 0, acc => pure (String.ofList acc.reverse)
    | fuel + 1, acc => do
      match ← next with
      | none => fail .eofWhileParsingString
      | some '"' => pure (String.ofList acc.reverse)
      | some '\\' => go fuel ((← escape) :: acc)
      | some c => if c.toNat < 0x20 then fail .controlCharacterInString else go fuel (c :: acc)
  go ((← get).rest.length + 1) []

/-- Skips an escape after the backslash, checking only its form. -/
def skipEscape : Reader Unit := do
  match ← next with
  | none => fail .eofWhileParsingString
  | some c =>
    if c = '"' || c = '\\' || c = '/' || c = 'b' || c = 'f' || c = 'n' || c = 'r' || c = 't' then
      pure ()
    else if c = 'u' then do let _ ← hex4
    else fail .invalidEscape

/-- Skips a string after its opening quote. -/
def skipString : Reader Unit := do
  let rec go : Nat → Reader Unit
    | 0 => pure ()
    | fuel + 1 => do
      match ← peek with
      | none => fail .eofWhileParsingString
      | some '"' => bump
      | some '\\' => do bump; skipEscape; go fuel
      | some c => if c.toNat < 0x20 then fail .controlCharacterInString else do bump; go fuel
  go ((← get).rest.length + 1)

end Reader

end LiveViewer.Json
