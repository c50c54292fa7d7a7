import LiveViewer.Toml.Error
import LiveViewer.Decimal.Style
import LiveViewer.Text.Quoted

/-!
# Typed values from TOML items

A decoder reads a value of a given type from an item of a document, or refuses it. A refusal
names what was found and what was expected ("invalid type: integer 5, expected a string")
and points at the item that carried the fault. A refusal made without a place is
placed at the innermost item around it that has one: the value itself, else the element of an
array, else the key the value stands under.

Records are read from tables, inline tables, or arrays (their fields in order); keys that name
no field are skipped. A unit variant is read from its name, or from a table holding its name
as the only key over an empty array or table.
-/

namespace LiveViewer.Toml

/-- How doubles are shown in refusals: always positionally, an integral value with `.0`. -/
def displayStyle : Decimal.Style :=
  { lowExp := -1000, highExp := 1000, pointZero := true, mark := "e", plusSign := false,
    expDigits := 1, nanText := "NaN", infText := "inf", tieUp := true }

/-- How an item is named when it is not what was expected. -/
def Item.unexpected : Item → String
  | .string s _ => "string " ++ Text.quote s
  | .integer i _ => "integer `" ++ toString i ++ "`"
  | .float x _ => "floating point `" ++ displayStyle.write x ++ "`"
  | .boolean b _ => "boolean `" ++ (if b then "true" else "false") ++ "`"
  | .datetime .. | .inlineTable .. | .table .. => "map"
  | .array .. | .tables .. => "sequence"

/-- Reads a document into its root table, refusing it with an error placed where reading
stopped; a table that cannot be stored at the end refuses it without a place. -/
def parseDocument (text : String) : Except TomlError Item :=
  match readDocument text with
  | .ok item => .ok item
  | .error (.inl f) => .error (f.toError text.utf8ByteSize)
  | .error (.inr e) => .error { message := e.message }

/-- Reads a value of type `α` from an item. -/
abbrev Decoder (α : Type) := Item → Except TomlError α

namespace Decoder

/-- Places a refusal that has no place yet at `span`. -/
def placed {α : Type} (span : Option Span) (r : Except TomlError α) : Except TomlError α :=
  r.mapError fun e => if e.span.isSome then e else { e with span := span }

/-- Runs `d` on `item`, placing its refusals at the item. -/
def run {α : Type} (d : Decoder α) (item : Item) : Except TomlError α :=
  placed item.span (d item)

/-- The refusal of `item` where `expected` was wanted. -/
def invalidType (item : Item) (expected : String) : TomlError :=
  { message := "invalid type: " ++ item.unexpected ++ ", expected " ++ expected }

/-- A string. -/
def string : Decoder String
  | .string s _ => .ok s
  | item => .error (invalidType item "a string")

/-- A nonnegative integer, named `name` in refusals. -/
def unsigned (name : String) : Decoder Nat
  | .integer i _ =>
    if 0 ≤ i then .ok i.toNat
    else .error { message := "invalid value: integer `" ++ toString i ++ "`, expected " ++ name }
  | item => .error (invalidType item name)

/-- A value that is present. -/
def option {α : Type} (d : Decoder α) : Decoder (Option α) := fun item => some <$> d.run item

/-- An array, each element read with `d`. -/
def seq {α : Type} (d : Decoder α) : Decoder (List α)
  | .array items sp => items.mapM fun v => placed (v.span <|> some sp) (d.run v)
  | .tables items => items.mapM fun v => d.run v
  | item => .error (invalidType item "a sequence")

/-- A field of a record of type `α`. -/
structure Member (α : Type) where
  /-- Its key. -/
  name : String
  /-- Sets the field from an item. -/
  read : α → Decoder α
  /-- Whether a record must name it. -/
  required : Bool := false

/-- A record from the entries of a table: each key that names a field sets it, in the order
of the entries; then the first required field not set is missing. -/
def fromEntries {α : Type} (fields : List (Member α)) (init : α) (entries : List (Key × Item)) :
    Except TomlError α := do
  let mut acc := init
  let mut seen : List String := []
  for (k, v) in entries do
    match fields.find? (·.name == k.name) with
    | none => pure ()
    | some f =>
      acc ← placed (v.span <|> some k.span) ((f.read acc).run v)
      seen := k.name :: seen
  match fields.find? fun f => f.required && !seen.contains f.name with
  | some f => throw { message := "missing field `" ++ f.name ++ "`" }
  | none => return acc

/-- A record from the elements of an array, the fields in order; `span` places the refusals
of elements without a place. A missing element of a required field refuses the array. -/
def fromElements {α : Type} (what : String) (fields : List (Member α)) (init : α)
    (items : List Item) (span : Option Span) : Except TomlError α := do
  let mut acc := init
  for (f, i) in fields.zipIdx do
    match items[i]? with
    | some v => acc ← placed (v.span <|> span) ((f.read acc).run v)
    | none =>
      if f.required then
        throw { message := "invalid length " ++ toString i ++ ", expected " ++ what ++ " with " ++
          toString fields.length ++ " elements" }
  return acc

/-- A record named `what`: from a table or inline table, or from an array. A date or time
reads as a table without any field of the record. -/
def record {α : Type} (what : String) (fields : List (Member α)) (init : α) : Decoder α
  | .table entries .. | .inlineTable entries .. => fromEntries fields init entries
  | .datetime .. => fromEntries fields init []
  | .array items sp => fromElements what fields init items (some sp)
  | .tables items => fromElements what fields init items none
  | item => .error (invalidType item what)

/-- A list of names as `a`, `a` or `b`, or one of `a`, `b`, `c`. -/
def choices (names : List String) : String :=
  let tick (s : String) := "`" ++ s ++ "`"
  match names with
  | [] => "nothing"
  | [a] => tick a
  | [a, b] => tick a ++ " or " ++ tick b
  | _ => "one of " ++ ", ".intercalate (names.map tick)

/-- The content of a variant without data: an empty array or table. -/
def unitContent : Item → Except TomlError Unit
  | .tables items => if items.isEmpty then .ok () else .error { message := "expected empty array" }
  | .array items sp =>
    if items.isEmpty then .ok () else .error { message := "expected empty array", span := some sp }
  | .table es _ _ sp | .inlineTable es _ _ sp =>
    if es.isEmpty then .ok () else .error { message := "expected empty table", span := sp }
  | item => .error { message := "expected table, found " ++ item.typeName, span := item.span }

/-- A variant without data, by one of the `names`: a string, or a table whose only key is
the name. -/
def unitVariant {α : Type} (names : List (String × α)) : Decoder α := fun item =>
  let pick (name : String) (span : Option Span) : Except TomlError α :=
    match names.find? (·.1 == name) with
    | some (_, v) => .ok v
    | none =>
      .error { message := "unknown variant `" ++ name ++ "`, expected " ++ choices (names.map (·.1)),
               span := span }
  match item with
  | .string s _ => pick s none
  | .table es _ _ sp | .inlineTable es _ _ sp =>
    match es with
    | [] => .error { message := "wanted exactly 1 element, found 0 elements", span := sp }
    | [(k, v)] => do
      let x ← pick k.name (some k.span)
      unitContent v
      return x
    | _ => .error { message := "wanted exactly 1 element, more than 1 element", span := sp }
  | _ => .error { message := "wanted string or table", span := item.span }

end Decoder

end LiveViewer.Toml
