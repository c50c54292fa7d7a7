import LiveViewer.Toml.Value

/-!
# Building the tables of a document

A document is read as a sequence of key/value pairs and table headers. The pairs go into the
*current* table: the root until the first header, then the table the last header opened. A
dotted key walks down from the current table, making dotted tables on its way. A `[header]`
walks down from the root, making implicit tables on its way, and opens an explicit table; a
`[[header]]` appends a new table to an array of tables. A table is stored in the tree when the
next header comes or the document ends.

The rules a document can break:

* a key may be defined once in a table (`duplicate key`), and a table may be opened by one
  header only, unless it so far existed only implicitly;
* a dotted key may not reach into a table opened by a header, and a header may not name a
  table that dotted keys made;
* a dotted key or header may not pass through a value (`dotted key ... attempted to extend
  non-table type`).
-/

namespace LiveViewer.Toml

/-- A rule of table building that a document broke. -/
inductive BuildError where
  /-- A key defined twice; with the path of the table it is in, when that is known. -/
  | duplicateKey (key : String) (table : Option (List String))
  /-- A dotted key or header that passes through a value of the given type. -/
  | extendWrongType (path : List String) (actual : String)
  deriving DecidableEq, Repr, Inhabited

/-- The error's text. -/
def BuildError.message : BuildError → String
  | .duplicateKey key none => "duplicate key `" ++ key ++ "`"
  | .duplicateKey key (some []) => "duplicate key `" ++ key ++ "` in document root"
  | .duplicateKey key (some path) =>
    "duplicate key `" ++ key ++ "` in table `" ++ ".".intercalate path ++ "`"
  | .extendWrongType path actual =>
    "dotted key `" ++ ".".intercalate path ++ "` attempted to extend non-table type (" ++
      actual ++ ")"

/-- A table being filled. -/
structure Table where
  /-- Its entries, in the order they were made. -/
  entries : List (Key × Item) := []
  /-- Whether it exists only because something passes through it. -/
  implicit : Bool := false
  /-- Whether a dotted key made it. -/
  dotted : Bool := false
  /-- Where its header stands. -/
  span : Option Span := none
  deriving Inhabited

/-- The table as a node of the tree. -/
def Table.toItem (t : Table) : Item := .table t.entries t.implicit t.dotted t.span

/-- The error for the `i`-th key of `path` when it is already defined. -/
def duplicateAt (path : List Key) (i : Nat) : BuildError :=
  .duplicateKey ((path.drop i).head?.map (·.raw) |>.getD "") (some ((path.take i).map (·.name)))

/-- Walks `rest` down from table `t`, making missing tables (dotted ones when `dotted`), and
changes the table reached with `f`. `whole` is the full path and `i` the number of its keys
already walked, for error texts. -/
def descend {α : Type} (dotted : Bool) (whole : List Key)
    (f : Table → Except BuildError (Table × α)) : Nat → List Key → Table → Except BuildError (Table × α)
  | _, [], t => f t
  | i, k :: ks, t =>
    match lookup t.entries k.name with
    | none => do
      let (c, a) ← descend dotted whole f (i + 1) ks { implicit := true, dotted := dotted }
      return ({ t with entries := t.entries ++ [(k, c.toItem)] }, a)
    | some (k0, item) =>
      match item with
      | .table es imp dot sp => do
        if dotted && !imp then throw (.duplicateKey k.name none)
        let (c, a) ← descend dotted whole f (i + 1) ks ⟨es, imp, dot, sp⟩
        return ({ t with entries := upsert t.entries k0 c.toItem }, a)
      | .tables items =>
        match items.getLast? with
        | some (.table es imp dot sp) => do
          let (c, a) ← descend dotted whole f (i + 1) ks ⟨es, imp, dot, sp⟩
          return ({ t with entries := upsert t.entries k0 (.tables (items.dropLast ++ [c.toItem])) }, a)
        | _ => throw (duplicateAt whole i)
      | v => throw (.extendWrongType ((whole.take (i + 1)).map (·.name)) v.typeName)

/-- The table as an inline table value. -/
def Table.toInline (t : Table) : Item := .inlineTable t.entries t.implicit t.dotted t.span

/-- Walks `rest` down inside an inline table, making dotted inline tables on its way, and
changes the table reached with `f`. -/
def descendInline {α : Type} (whole : List Key)
    (f : Table → Except BuildError (Table × α)) : Nat → List Key → Table → Except BuildError (Table × α)
  | _, [], t => f t
  | i, k :: ks, t =>
    match lookup t.entries k.name with
    | none => do
      let (c, a) ← descendInline whole f (i + 1) ks { implicit := true, dotted := true }
      return ({ t with entries := t.entries ++ [(k, c.toInline)] }, a)
    | some (k0, .inlineTable es imp dot sp) => do
      if !imp then throw (.duplicateKey k.name none)
      let (c, a) ← descendInline whole f (i + 1) ks ⟨es, imp, dot, sp⟩
      return ({ t with entries := upsert t.entries k0 c.toInline }, a)
    | some (_, v) => throw (.extendWrongType ((whole.take (i + 1)).map (·.name)) v.typeName)

/-- The entries of an inline table written as the given pairs, each with the dotted part of its
key before the last key. -/
def inlineEntries (pairs : List (List Key × Key × Item)) : Except BuildError (List (Key × Item)) := do
  let mut root : Table := {}
  for (path, key, item) in pairs do
    let (r, ()) ← descendInline path (fun parent => do
      if parent.dotted == path.isEmpty then throw (.duplicateKey key.name none)
      if (lookup parent.entries key.name).isSome then throw (.duplicateKey key.name none)
      return ({ parent with entries := parent.entries ++ [(key, item)] }, ())) 0 path root
    root := r
  return root.entries

/-- The state of reading a document's tables. -/
structure Builder where
  /-- The root table, once the first header came. -/
  root : Table := {}
  /-- The table pairs go into. -/
  current : Table := { span := some ⟨0, 0⟩ }
  /-- The header path of the current table; empty for the root. -/
  currentPath : List Key := []
  /-- Whether the current table is an item of an array of tables. -/
  currentIsArray : Bool := false
  deriving Inhabited

namespace Builder

/-- A key/value pair: `path` is the dotted part before the last key. -/
def onKeyval (path : List Key) (key : Key) (item : Item) (b : Builder) : Except BuildError Builder := do
  let current := match b.current.span, item.span with
    | some sp, some v => { b.current with span := some ⟨sp.start, v.stop⟩ }
    | _, _ => b.current
  let (cur, ()) ← descend true path (fun parent => do
    if parent.dotted == path.isEmpty then throw (.duplicateKey key.name none)
    if (lookup parent.entries key.name).isSome then
      throw (.duplicateKey key.name (some (b.currentPath.map (·.name))))
    return ({ parent with entries := parent.entries ++ [(key, item)] }, ())) 0 path current
  return { b with current := cur }

/-- Stores the current table in the tree. -/
def finalize (b : Builder) : Except BuildError Builder := do
  let table := b.current
  let path := b.currentPath
  let b := { b with current := {}, currentPath := [] }
  match path.getLast? with
  | none => return { b with root := table }
  | some last =>
    let init := path.dropLast
    let (root, ()) ← descend false path (fun parent => do
      match lookup parent.entries last.name with
      | none =>
        let item := if b.currentIsArray then Item.tables [table.toItem] else table.toItem
        return ({ parent with entries := parent.entries ++ [(last, item)] }, ())
      | some (k, .tables items) =>
        if b.currentIsArray then
          return ({ parent with entries := upsert parent.entries k (.tables (items ++ [table.toItem])) }, ())
        else throw (duplicateAt path (path.length - 1))
      | some (k, .table _ true _ _) =>
        if b.currentIsArray then throw (duplicateAt path (path.length - 1))
        return ({ parent with entries := upsert parent.entries k table.toItem }, ())
      | some _ => throw (duplicateAt path (path.length - 1))) 0 init b.root
    return { b with root := root }

/-- Opens the table `[path]`, whose header stands at `span`. -/
def startTable (path : List Key) (span : Span) (b : Builder) : Except BuildError Builder := do
  let some last := path.getLast? | return b
  let (root, taken) ← descend false path (fun parent => do
    match lookup parent.entries last.name with
    | none => return (parent, [])
    | some (_, .table es true false _) => return ({ parent with entries := erase parent.entries last.name }, es)
    | some _ => throw (duplicateAt path (path.length - 1))) 0 path.dropLast b.root
  let current : Table := { entries := taken, span := some span }
  return { b with
    root := root
    current := current
    currentIsArray := false
    currentPath := path }

/-- Opens a new table of the array `[[path]]`, whose header stands at `span`; the array itself
is looked up when the table is stored. -/
def startArrayTable (path : List Key) (span : Span) (b : Builder) : Builder :=
  { b with current := { span := some span }, currentIsArray := true, currentPath := path }

/-- A `[path]` header. -/
def onStdHeader (path : List Key) (span : Span) (b : Builder) : Except BuildError Builder := do
  (← b.finalize).startTable path span

/-- A `[[path]]` header. -/
def onArrayHeader (path : List Key) (span : Span) (b : Builder) : Except BuildError Builder := do
  return (← b.finalize).startArrayTable path span

/-- The document's root table, once every table is stored. -/
def finish (b : Builder) : Except BuildError Table := do
  return (← b.finalize).root

end Builder

end LiveViewer.Toml
