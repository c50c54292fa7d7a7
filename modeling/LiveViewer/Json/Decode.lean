import LiveViewer.Json.Reader

/-!
# Decoding typed values from JSON text

Decoders for the shapes a typed record takes in JSON: strings, booleans, integers of a range,
optional values (`null` is absent), sequences, records and tagged variants, and untyped values.

A record is read from an object, its fields by name in any order, or from an array, its fields
by position. A field may be absent from an object when it has a default or is optional; from an
array, only the trailing fields that have a default. Unknown object members are skipped, and
a field given twice is refused. A tagged variant is an object with one member, the variant's
name and its content, or just the name for a variant without content.

Every array and object opened takes one level of the reader's depth; a text nested deeper than
the depth allows is refused. Skipped members are not counted.
-/

namespace LiveViewer.Json

open Reader

namespace Decode

/-- What a reader found where it expected another kind of value; reads past it. -/
def invalidType {α : Type} (expected : String) : Reader α := do
  let found ← do
    match ← peekOrNull with
    | 'n' => do bump; literal ['u', 'l', 'l']; pure Unexpected.unit
    | 't' => do bump; literal ['r', 'u', 'e']; pure (Unexpected.bool true)
    | 'f' => do bump; literal ['a', 'l', 's', 'e']; pure (Unexpected.bool false)
    | '"' => do bump; pure (Unexpected.str (← stringBody))
    | '[' => pure Unexpected.seq
    | '{' => pure Unexpected.map
    | '-' => do bump; numberFound (← number false)
    | c => if isDigit c then do numberFound (← number true) else failPeek .expectedSomeValue
  placed (failData (.invalidType found expected))
where
  numberFound : Number → Reader Unexpected
    | .posInt n => pure (.unsigned n.toNat)
    | .negInt n => pure (.signed n.toInt)
    | .float x => pure (.float x)

/-- Skips blanks and fails at the end of the text. -/
def start : Reader Char := do
  match ← skipBlank with
  | none => failPeek .eofWhileParsingValue
  | some c => pure c

/-- A string. -/
def string : Reader String := placed do
  if (← start) = '"' then do bump; stringBody else invalidType "a string"

/-- A boolean. -/
def bool : Reader Bool := placed do
  match ← start with
  | 't' => do bump; literal ['r', 'u', 'e']; pure true
  | 'f' => do bump; literal ['a', 'l', 's', 'e']; pure false
  | _ => invalidType "a boolean"

/-- An integer within `lo` and `hi`; `name` names the range in messages. -/
def integer (lo hi : Int) (name : String) : Reader Int := placed do
  let c ← start
  if c = '-' then do bump; check (← number false)
  else if isDigit c then do check (← number true)
  else invalidType name
where
  check : Number → Reader Int
    | .posInt n => if (n.toNat : Int) ≤ hi then pure n.toNat
        else failData (.invalidValue (.unsigned n.toNat) name)
    | .negInt n => if lo ≤ n.toInt then pure n.toInt
        else failData (.invalidValue (.signed n.toInt) name)
    | .float x => failData (.invalidType (.float x) name)

/-- An unsigned 16-bit integer. -/
def u16 : Reader Nat := do return (← integer 0 65535 "u16").toNat

/-- An unsigned 32-bit integer. -/
def u32 : Reader Nat := do return (← integer 0 4294967295 "u32").toNat

/-- An unsigned 64-bit integer. -/
def u64 : Reader Nat := do return (← integer 0 u64Max "u64").toNat

/-- An unsigned integer of the machine's width, 64 bits. -/
def usize : Reader Nat := do return (← integer 0 u64Max "usize").toNat

/-- A signed 64-bit integer. -/
def i64 : Reader Int := integer (-9223372036854775808) 9223372036854775807 "i64"

/-- A value that may be `null`. -/
def option {α : Type} (d : Reader α) : Reader (Option α) := do
  if (← skipBlank) = some 'n' then do bump; literal ['u', 'l', 'l']; pure none
  else some <$> d

/-- Opens the array or object at hand: takes one level of depth, or fails when none is left. -/
def enter : Reader Unit := do
  let c ← get
  if c.depth ≤ 1 then failPeek .recursionLimitExceeded
  else set { c with depth := c.depth - 1, rest := c.rest.drop 1 }

/-- Gives back the level taken by `enter`. -/
def leave : Reader Unit := modify fun c => { c with depth := c.depth + 1 }

/-- Moves to the next array item; `false` at the closing bracket, which stays unread. -/
def nextItem (first : Bool) : Reader Bool := do
  match ← skipBlank with
  | none => failPeek .eofWhileParsingList
  | some ']' => pure false
  | some c =>
    let d ← if c = ',' && !first then do bump; skipBlank
      else if first then pure (some c) else failPeek .expectedListCommaOrEnd
    match d with
    | some ']' => failPeek .trailingComma
    | some _ => pure true
    | none => failPeek .eofWhileParsingValue

/-- Moves to the next object key and reads it; `none` at the closing brace, which stays unread. -/
def nextKey (first : Bool) : Reader (Option String) := do
  match ← skipBlank with
  | none => failPeek .eofWhileParsingObject
  | some '}' => pure none
  | some c =>
    let d ← if c = ',' && !first then do bump; skipBlank
      else if first then pure (some c) else failPeek .expectedObjectCommaOrEnd
    match d with
    | some '"' => do bump; some <$> stringBody
    | some '}' => failPeek .trailingComma
    | some _ => failPeek .keyMustBeAString
    | none => failPeek .eofWhileParsingValue

/-- Reads the colon after an object key. -/
def colon : Reader Unit := do
  match ← skipBlank with
  | some ':' => bump
  | some _ => failPeek .expectedColon
  | none => failPeek .eofWhileParsingObject

/-- Closes an array whose items were all read. -/
def closeArray : Reader Unit := do
  match ← skipBlank with
  | some ']' => bump
  | some ',' => do
    bump
    if (← skipBlank) = some ']' then failPeek .trailingComma else failPeek .trailingCharacters
  | some _ => failPeek .trailingCharacters
  | none => failPeek .eofWhileParsingList

/-- Closes an object whose members were all read. -/
def closeObject : Reader Unit := do
  match ← skipBlank with
  | some '}' => bump
  | some ',' => failPeek .trailingComma
  | some _ => failPeek .trailingCharacters
  | none => failPeek .eofWhileParsingObject

/-- Runs `body` inside an opened container and then closes it with `close`, also when `body`
failed; the first fault is reported. -/
def within {α : Type} (body : Reader α) (close : Reader Unit) : Reader α := do
  enter
  let r ← attempt body
  leave
  let e ← attempt close
  match r, e with
  | .ok v, .ok _ => pure v
  | .error f, _ => throw f
  | .ok _, .error f => throw f

/-- The items of an opened array, each read by `item`. -/
def items {α : Type} (item : Reader α) : Reader (List α) := do
  let rec go : Nat → Bool → List α → Reader (List α)
    | 0, _, acc => pure acc.reverse
    | fuel + 1, first, acc => do
      if ← nextItem first then go fuel false ((← item) :: acc) else pure acc.reverse
  go ((← get).rest.length + 1) true []

/-- A sequence of values, each read by `item`. -/
def seq {α : Type} (item : Reader α) : Reader (List α) := placed do
  if (← start) = '[' then within (items item) closeArray else invalidType "a sequence"

/-- A container being skipped. -/
inductive Frame where
  | array
  | object
  deriving DecidableEq

/-- Where a skip stands: before a value, or after one inside the open containers. -/
inductive Skip where
  /-- A value is due; `open` are the containers around it, innermost first. -/
  | value (opened : List Frame)
  /-- Inside `frame`, after a value when `comma`, else right after it opened. -/
  | after (comma : Bool) (frame : Frame) (opened : List Frame)

/-- Skips a number after its sign, checking its form only. -/
def skipNumber : Reader Unit := do
  match ← peek with
  | some '0' => do
    bump
    if isDigit (← peekOrNull) then failPeek .invalidNumber
  | some c => do
    bump
    if '1' ≤ c && c ≤ '9' then do let _ ← digits else fail .invalidNumber
  | none => fail .invalidNumber
  let exponent : Reader Unit := do
    bump
    let s ← peekOrNull
    if s = '+' || s = '-' then bump
    match ← next with
    | some d => if isDigit d then do let _ ← digits else fail .invalidNumber
    | none => fail .invalidNumber
  let c ← peekOrNull
  if c = '.' then do
    bump
    let ds ← digits
    if ds.isEmpty then failPeek .invalidNumber
    let e ← peekOrNull
    if e = 'e' || e = 'E' then exponent
  else if c = 'e' || c = 'E' then exponent

/-- Skips the start of a value: a whole scalar, or the bracket of a container. -/
def skipOpen : Reader (Option Frame) := do
  match ← start with
  | 'n' => do bump; literal ['u', 'l', 'l']; pure none
  | 't' => do bump; literal ['r', 'u', 'e']; pure none
  | 'f' => do bump; literal ['a', 'l', 's', 'e']; pure none
  | '-' => do bump; skipNumber; pure none
  | '"' => do bump; skipString; pure none
  | '[' => do bump; pure (some .array)
  | '{' => do bump; pure (some .object)
  | c => if isDigit c then do skipNumber; pure none else failPeek .expectedSomeValue

/-- Inside an object, reads a member's key and colon. -/
def skipKey : Frame → Reader Unit
  | .array => pure ()
  | .object => do
    match ← skipBlank with
    | some '"' => do bump; skipString
    | some _ => failPeek .keyMustBeAString
    | none => failPeek .eofWhileParsingObject
    match ← skipBlank with
    | some ':' => bump
    | some _ => failPeek .expectedColon
    | none => failPeek .eofWhileParsingObject

/-- Whether `c` closes `f`. -/
def closes (f : Frame) (c : Char) : Bool :=
  match f with
  | .array => c = ']'
  | .object => c = '}'

/-- Skips one value, however deeply nested, checking its form only. -/
def skipValue : Reader Unit := do
  let rec go : Nat → Skip → Reader Unit
    | 0, _ => pure ()
    | fuel + 1, .value opened => do
      match ← skipOpen with
      | some f => go fuel (.after false f opened)
      | none =>
        match opened with
        | [] => pure ()
        | f :: rest => go fuel (.after true f rest)
    | fuel + 1, .after comma frame opened => do
      match ← skipBlank with
      | none => failPeek (if frame = .array then .eofWhileParsingList else .eofWhileParsingObject)
      | some c =>
        if comma && c = ',' then do
          bump
          skipKey frame
          go fuel (.value (frame :: opened))
        else if closes frame c then do
          bump
          match opened with
          | [] => pure ()
          | f :: rest => go fuel (.after true f rest)
        else if comma then
          failPeek (if frame = .array then .expectedListCommaOrEnd else .expectedObjectCommaOrEnd)
        else do
          skipKey frame
          go fuel (.value (frame :: opened))
  go (2 * (← get).rest.length + 2) (.value [])

/-- Replaces the member `k` of an object, or adds it at the end. -/
def insertMember (ms : List (String × Value)) (k : String) (v : Value) : List (String × Value) :=
  if ms.any (·.1 == k) then ms.map fun m => if m.1 == k then (k, v) else m else ms ++ [(k, v)]

/-- Any value, with `depth` more levels allowed; a key given twice keeps its last value. -/
def anyValueAt : Nat → Reader Value
  | 0 => failPeek .recursionLimitExceeded
  | depth + 1 => placed do
    match ← start with
    | 'n' => do bump; literal ['u', 'l', 'l']; pure .null
    | 't' => do bump; literal ['r', 'u', 'e']; pure (.bool true)
    | 'f' => do bump; literal ['a', 'l', 's', 'e']; pure (.bool false)
    | '-' => do bump; pure (.number (← number false))
    | '"' => do bump; pure (.string (← stringBody))
    | '[' =>
      if depth = 0 then failPeek .recursionLimitExceeded
      else do
        bump
        let r ← attempt (items (anyValueAt depth))
        let e ← attempt closeArray
        match r, e with
        | .ok v, .ok _ => pure (.array v)
        | .error f, _ => throw f
        | .ok _, .error f => throw f
    | '{' =>
      if depth = 0 then failPeek .recursionLimitExceeded
      else do
        bump
        let rec members : Nat → Bool → List (String × Value) → Reader (List (String × Value))
          | 0, _, acc => pure acc
          | fuel + 1, first, acc => do
            match ← nextKey first with
            | none => pure acc
            | some k => do
              colon
              let v ← anyValueAt depth
              members fuel false (insertMember acc k v)
        let r ← attempt (members ((← get).rest.length + 1) true [])
        let e ← attempt closeObject
        match r, e with
        | .ok v, .ok _ => pure (.object v)
        | .error f, _ => throw f
        | .ok _, .error f => throw f
    | c => if isDigit c then do pure (.number (← number true)) else failPeek .expectedSomeValue

/-- Any value, within the depth the reader has left. -/
def anyValue : Reader Value := do anyValueAt (← get).depth

/-- One field of a record being read into a draft of type `σ`. -/
structure Field (σ : Type) where
  /-- The field's name. -/
  name : String
  /-- Other names it is read under. -/
  aliases : List String := []
  /-- Reads the field's value into the draft. -/
  read : σ → Reader σ
  /-- Whether an object must name it: it has no default and is not optional. -/
  required : Bool
  /-- Whether an array must hold it: it has no default. -/
  positional : Bool

/-- A variable of `σ` drafts with the fields seen so far. -/
def Field.names {σ : Type} (f : Field σ) : List String := f.name :: f.aliases

/-- The fields of a record from an opened array, by position. -/
def fieldsFromArray {σ : Type} (expecting : String) (fields : List (Field σ)) (draft : σ) :
    Reader σ := do
  let count := fields.length
  let expected := expecting ++ " with " ++ toString count ++
    (if count = 1 then " element" else " elements")
  let rec go : List (Field σ) → Nat → Bool → σ → Reader σ
    | [], _, _, d => pure d
    | f :: rest, i, first, d => do
      if ← nextItem first then go rest (i + 1) false (← f.read d)
      else if f.positional then failData (.invalidLength i expected)
      else go rest (i + 1) first d
  go fields 0 true draft

/-- The fields of a record from an opened object, by name; unknown members are skipped. -/
def fieldsFromObject {σ : Type} (fields : List (Field σ)) (draft : σ) : Reader σ := do
  let rec go : Nat → Bool → List String → σ → Reader (σ × List String)
    | 0, _, seen, d => pure (d, seen)
    | fuel + 1, first, seen, d => do
      match ← nextKey first with
      | none => pure (d, seen)
      | some k =>
        match fields.find? (fun f => f.names.contains k) with
        | some f =>
          if seen.contains f.name then failData (.duplicateField f.name)
          else do
            colon
            go fuel false (f.name :: seen) (← f.read d)
        | none => do
          colon
          skipValue
          go fuel false seen d
  let (d, seen) ← go ((← get).rest.length + 1) true [] draft
  match fields.find? (fun f => f.required && !seen.contains f.name) with
  | some f => failData (.missingField f.name)
  | none => pure d

/-- A record, from an object or an array, starting from `draft`, which holds the defaults;
`expecting` names the record in messages. -/
def record {σ : Type} (expecting : String) (fields : List (Field σ)) (draft : σ) : Reader σ :=
  placed do
    match ← start with
    | '[' => within (fieldsFromArray expecting fields draft) closeArray
    | '{' => within (fieldsFromObject fields draft) closeObject
    | _ => invalidType expecting

/-- A variant name among `known`. -/
def variantName (known : List String) : Reader String := placed do
  if (← start) = '"' then do
    bump
    let s ← stringBody
    if known.contains s then pure s else failData (.unknownVariant s known)
  else invalidType "variant identifier"

/-- A tagged variant: `withContent` reads the content after the name in the object form, and
`bare` handles the name given alone. -/
def variant {α : Type} (known : List String) (withContent : String → Reader α)
    (bare : String → Reader α) : Reader α := do
  match ← skipBlank with
  | some '{' => do
    enter
    let name ← variantName known
    colon
    let v ← withContent name
    leave
    match ← skipBlank with
    | some '}' => do bump; pure v
    | some _ => fail .expectedSomeValue
    | none => fail .eofWhileParsingObject
  | some '"' => do bare (← variantName known)
  | some _ => failPeek .expectedSomeValue
  | none => failPeek .eofWhileParsingValue

/-- The content of a variant that has none: `null`. -/
def unitContent : Reader Unit := placed do
  if (← start) = 'n' then do bump; literal ['u', 'l', 'l'] else invalidType "unit"

/-- Reads a whole text with `d`: nothing but blanks may follow the value. -/
def run {α : Type} (d : Reader α) (text : String) : Except Error α :=
  let input := text.toList
  let whole : Reader α := do
    let v ← d
    if (← skipBlank).isSome then failPeek .trailingCharacters
    pure v
  match whole.run ⟨input, 128⟩ with
  | .ok v _ => .ok v
  | .error f _ => .error (f.locate input)

end Decode

end LiveViewer.Json
