/-!
# Tables keyed by code point

Character properties are kept as arrays of entries sorted by a code point key, each entry
holding from its key up to the next key. A lookup bisects the array for the last entry whose
key is at most the code point asked for.
-/

namespace LiveViewer.Text

/-- The index of the last entry of `table` with key at most `n`, between `lo` and `hi`, when
the entry at `lo` has key at most `n` and none from `hi` on has; `fuel` bounds the halvings. -/
def bisect {α : Type} (table : Array (Nat × α)) (n : Nat) : (fuel lo hi : Nat) → Nat
  | 0, lo, _ => lo
  | fuel + 1, lo, hi =>
    if hi ≤ lo + 1 then lo
    else
      let mid := (lo + hi) / 2
      if (table[mid]?.map (·.1)).getD 0 ≤ n then bisect table n fuel mid hi
      else bisect table n fuel lo mid

/-- The last entry of a table sorted by key whose key is at most `n`. -/
def lastEntryAtMost {α : Type} (table : Array (Nat × α)) (n : Nat) : Option (Nat × α) :=
  match table[0]? with
  | some (k, _) => if n < k then none else table[bisect table n 64 0 table.size]?
  | none => none

/-- The value of the last entry of a table sorted by key whose key is at most `n`. -/
def lastAtMost {α : Type} (table : Array (Nat × α)) (n : Nat) : Option α :=
  (lastEntryAtMost table n).map (·.2)

/-- The value stored under exactly the key `n` in a table sorted by key. -/
def valueAt {α : Type} (table : Array (Nat × α)) (n : Nat) : Option α :=
  match lastEntryAtMost table n with
  | some (k, v) => if k = n then some v else none
  | none => none

example : lastAtMost #[(1, "a"), (5, "b"), (9, "c")] 7 = some "b" := by decide
example : valueAt #[(1, "a"), (5, "b"), (9, "c")] 7 = none := by decide

end LiveViewer.Text
