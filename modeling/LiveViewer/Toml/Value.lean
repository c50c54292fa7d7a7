/-!
# TOML documents as trees

A TOML document is a tree of tables. Every value remembers the byte range of its text (its
*span*), so that an error found while reading the tree can point at the text it came from.

Tables come in three kinds besides inline ones: a table opened by a `[header]` (explicit), a
table that exists only because a longer header or key passes through it (implicit), and a
table made by a dotted key such as `a.b = 1` (dotted, and implicit as well). The kinds decide
which later definitions are allowed. Entries keep the order in which they were made.
-/

namespace LiveViewer.Toml

/-- A byte range of the document: from `start` up to, not including, `stop`. -/
structure Span where
  /-- The first byte. -/
  start : Nat
  /-- The byte after the last. -/
  stop : Nat
  deriving DecidableEq, Repr, Inhabited

/-- A key as written: its name and where it stands. -/
structure Key where
  /-- The key's name, with quotes and escapes resolved. -/
  name : String
  /-- The key as written, quotes included. -/
  raw : String
  /-- Where the key stands. -/
  span : Span
  deriving Repr, Inhabited

/-- A node of a TOML document. -/
inductive Item where
  /-- A string. -/
  | string (text : String) (span : Span)
  /-- An integer, within the signed 64-bit range. -/
  | integer (value : Int) (span : Span)
  /-- A floating-point number. -/
  | float (value : Float) (span : Span)
  /-- A boolean. -/
  | boolean (value : Bool) (span : Span)
  /-- An offset or local date-time, a local date or a local time, as written. -/
  | datetime (text : String) (span : Span)
  /-- An array value. -/
  | array (items : List Item) (span : Span)
  /-- An inline table; `implicit` and `dotted` for one made by a dotted key inside it. -/
  | inlineTable (entries : List (Key × Item)) (implicit dotted : Bool) (span : Option Span)
  /-- A table of the document. -/
  | table (entries : List (Key × Item)) (implicit dotted : Bool) (span : Option Span)
  /-- An array of tables, made by `[[header]]`s; its items are tables. -/
  | tables (items : List Item)
  deriving Inhabited

namespace Item

/-- Where the item's text stands, when it has one place. -/
def span : Item → Option Span
  | .string _ s | .integer _ s | .float _ s | .boolean _ s | .datetime _ s | .array _ s => some s
  | .inlineTable _ _ _ s | .table _ _ _ s => s
  | .tables _ => none

/-- The name of the item's type, as errors give it. -/
def typeName : Item → String
  | .string .. => "string"
  | .integer .. => "integer"
  | .float .. => "float"
  | .boolean .. => "boolean"
  | .datetime .. => "datetime"
  | .array .. => "array"
  | .inlineTable .. => "inline table"
  | .table .. => "table"
  | .tables .. => "array of tables"

/-- Whether the item is a value (anything but a document table or an array of tables). -/
def isValue : Item → Bool
  | .table .. | .tables .. => false
  | _ => true

end Item

/-- The entry named `name`, if there is one. -/
def lookup (entries : List (Key × Item)) (name : String) : Option (Key × Item) :=
  entries.find? (·.1.name == name)

/-- The entries with the one named `name` replaced by `item`, or `item` appended under `key`. -/
def upsert (entries : List (Key × Item)) (key : Key) (item : Item) : List (Key × Item) :=
  if entries.any (·.1.name == key.name) then
    entries.map fun e => if e.1.name == key.name then (e.1, item) else e
  else entries ++ [(key, item)]

/-- The entries without the one named `name`. -/
def erase (entries : List (Key × Item)) (name : String) : List (Key × Item) :=
  entries.filter (·.1.name != name)

end LiveViewer.Toml
