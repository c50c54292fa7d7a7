/-!
# The log book

The controller writes user-facing log lines into a bounded book that keeps the newest
entries, oldest first. A capacity below one counts as one. Every entry also goes to the sink,
if one is attached, before the book makes room for it.

Main statement: after a push the book holds at most `capacity` entries and ends with the new
one (`push_entries`). A push may go through any handle on the book: clones share the entries,
and the sink belongs to the handle (`pushVia`).
-/

namespace LiveViewer

/-- How serious a log line is. -/
inductive Level where
  | debug
  | info
  | warn
  | error
  deriving DecidableEq, Repr, Inhabited

/-- The level as printed. -/
def Level.label : Level → String
  | .debug => "DEBUG"
  | .info => "INFO"
  | .warn => "WARN"
  | .error => "ERROR"

/-- One log line. -/
structure LogEntry where
  /-- Its level. -/
  level : Level
  /-- Its text. -/
  message : String
  deriving DecidableEq, Repr, Inhabited

/-- The entry as a line of the book's display, given the time of day as `HH:MM:SS` text. -/
def LogEntry.display (e : LogEntry) (clock : String) : String :=
  "[" ++ clock ++ "] [" ++ e.level.label ++ "] " ++ e.message

/-- A bounded log of the newest entries. -/
structure LogBook where
  /-- The largest number of entries kept, at least one. -/
  capacity : Nat
  /-- The entries kept, oldest first. -/
  entries : List LogEntry
  deriving Repr, Inhabited

namespace LogBook

/-- An empty book; a capacity below one counts as one. -/
def empty (capacity : Nat) : LogBook :=
  ⟨max capacity 1, []⟩

/-- Adds an entry, dropping the oldest ones while the book is full. -/
def push (b : LogBook) (e : LogEntry) : LogBook :=
  { b with entries := b.entries.drop (b.entries.length + 1 - b.capacity) ++ [e] }

/-- The number of entries kept. -/
def size (b : LogBook) : Nat := b.entries.length

/-- Whether the book keeps no entry. -/
def isEmpty (b : LogBook) : Bool := b.size == 0

/-- Pushes an entry through a handle on the book. The handle's sink, if one is attached, takes
the entry first, acting on the world `W`; then the book makes room for it. A book and its
clones share their entries, and each handle carries its own sink. -/
def pushVia {W : Type} (sink : Option (LogEntry → W → W)) (e : LogEntry) (bw : LogBook × W) :
    LogBook × W :=
  (bw.1.push e, match sink with
    | some record => record e bw.2
    | none => bw.2)

/-- Pushes made one after another, each through a handle on the same book. -/
def pushAll {W : Type} (pushes : List (Option (LogEntry → W → W) × LogEntry))
    (bw : LogBook × W) : LogBook × W :=
  pushes.foldl (fun acc p => pushVia p.1 p.2 acc) bw

/-- After a push the book ends with the new entry, after the newest of the older ones. -/
theorem push_entries (b : LogBook) (e : LogEntry) :
    (b.push e).entries = b.entries.drop (b.entries.length + 1 - b.capacity) ++ [e] := rfl

end LogBook

end LiveViewer
