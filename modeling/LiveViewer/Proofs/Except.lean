/-!
# Computations that may fail

The readers and builders of the library return `Except` values, written as `do` blocks. Two
facts take their answers apart: an answer of a bind or a map comes from an answer of its first
part (`bind_eq_ok`, `map_eq_ok`), and renaming the errors keeps the answers
(`mapError_eq_ok`). A closed computation is evaluated through its `Option` view, which the
kernel decides where the `Except` value itself has no decidable equality (`eq_ok_of_toOption`).
-/

namespace LiveViewer

variable {ε ε' α β : Type}

/-- An answer of a bind is an answer of its continuation at an answer of its first part. -/
theorem bind_eq_ok {x : Except ε α} {f : α → Except ε β} {b : β} (h : x >>= f = .ok b) :
    ∃ a, x = .ok a ∧ f a = .ok b := by
  cases x with
  | error e => cases h
  | ok a => exact ⟨a, rfl, h⟩

/-- An answer of a mapped computation is the image of an answer of the computation. -/
theorem map_eq_ok {x : Except ε α} {f : α → β} {b : β} :
    f <$> x = .ok b ↔ ∃ a, x = .ok a ∧ f a = b := by
  cases x with
  | error e => exact ⟨nofun, fun ⟨_, h, _⟩ => nomatch h⟩
  | ok a =>
    exact ⟨fun h => ⟨a, rfl, Except.ok.inj h⟩, fun ⟨_, h, hb⟩ => by cases h; rw [← hb]; rfl⟩

/-- Renaming the errors of a computation keeps its answers and no others. -/
theorem mapError_eq_ok {x : Except ε α} {f : ε → ε'} {a : α} :
    x.mapError f = .ok a ↔ x = .ok a := by
  cases x with
  | error e => exact ⟨nofun, nofun⟩
  | ok b => exact ⟨fun h => by cases h; rfl, fun h => by cases h; rfl⟩

/-- A computation that gives a value gives it as its result: how a closed reading is evaluated. -/
theorem eq_ok_of_toOption {x : Except ε α} {a : α} (h : x.toOption = some a) : x = .ok a := by
  cases x <;> simp_all [Except.toOption]

end LiveViewer
