import Mathlib.Data.List.DropRight
import LiveViewer.LogBook

/-!
# The log book keeps the newest entries

A push appends the entry and then keeps the newest `capacity` entries (`push_entries_rtake`).
Keeping the newest `m + 1` and then the newest `m` is keeping the newest `m`, so a whole run of
pushes keeps the newest `max c 1` of everything pushed (`pushAll_entries`), whichever handle
each push went through: the history lives in the shared book. The sink of a handle is handed
every entry pushed through it, in order, the evicted ones too (`pushAll_world`).

Main statement: `keeps_newest`.
-/

namespace LiveViewer.LogBook

variable {W : Type}

@[simp] theorem push_capacity (b : LogBook) (e : LogEntry) :
    (b.push e).capacity = b.capacity := rfl

@[simp] theorem pushVia_book (sink : Option (LogEntry → W → W)) (e : LogEntry)
    (bw : LogBook × W) : (pushVia sink e bw).1 = bw.1.push e := rfl

theorem pushAll_append (ps qs : List (Option (LogEntry → W → W) × LogEntry)) (bw : LogBook × W) :
    pushAll (ps ++ qs) bw = pushAll qs (pushAll ps bw) :=
  List.foldl_append

theorem pushAll_singleton (p : Option (LogEntry → W → W) × LogEntry) (bw : LogBook × W) :
    pushAll [p] bw = pushVia p.1 p.2 bw := rfl

/-- The newest `m` of the newest `m + 1` are the newest `m`. -/
theorem rtake_rtake_succ {α : Type} (xs : List α) (m : Nat) :
    (xs.rtake (m + 1)).rtake m = xs.rtake m := by
  simp only [List.rtake, List.drop_drop, List.length_drop]
  congr 1
  omega

/-- A push is an append followed by keeping the newest `capacity` entries. -/
theorem push_entries_rtake (b : LogBook) (e : LogEntry) (h : 0 < b.capacity) :
    (b.push e).entries = (b.entries ++ [e]).rtake b.capacity := by
  obtain ⟨m, hm⟩ : ∃ m, b.capacity = m + 1 := ⟨b.capacity - 1, by omega⟩
  rw [push_entries, hm, List.rtake_concat_succ, List.rtake]
  congr 2
  omega

@[simp] theorem empty_capacity (c : Nat) : (empty c).capacity = max c 1 := rfl

/-- Pushing never changes the capacity. -/
theorem pushAll_capacity (ps : List (Option (LogEntry → W → W) × LogEntry)) (bw : LogBook × W) :
    (pushAll ps bw).1.capacity = bw.1.capacity := by
  induction ps using List.reverseRecOn with
  | nil => rfl
  | append_singleton ps p ih =>
    rw [pushAll_append, pushAll_singleton, pushVia_book, push_capacity, ih]

/-- The book after any run of pushes from empty keeps the newest `max c 1` entries pushed, in
push order, whatever handles they went through. -/
theorem pushAll_entries (c : Nat) (ps : List (Option (LogEntry → W → W) × LogEntry)) (w : W) :
    (pushAll ps (empty c, w)).1.entries = (ps.map Prod.snd).rtake (max c 1) := by
  induction ps using List.reverseRecOn with
  | nil => simp [pushAll, empty]
  | append_singleton ps p ih =>
    -- the capacity is still `max c 1`, at least one, so the push keeps the newest of the newest
    have hcap : (pushAll ps (empty c, w)).1.capacity = max c 1 := pushAll_capacity ps _
    obtain ⟨m, hm⟩ : ∃ m, max c 1 = m + 1 := ⟨max c 1 - 1, by omega⟩
    rw [pushAll_append, pushAll_singleton, pushVia_book,
      push_entries_rtake _ _ (by rw [hcap]; omega), ih, hcap, hm, List.rtake_concat_succ,
      rtake_rtake_succ, List.map_append, List.map_singleton, List.rtake_concat_succ]

/-- The number of entries kept: all pushed, up to the capacity. -/
theorem pushAll_size (c : Nat) (ps : List (Option (LogEntry → W → W) × LogEntry)) (w : W) :
    (pushAll ps (empty c, w)).1.size = min ps.length (max c 1) := by
  rw [size, pushAll_entries, List.rtake, List.length_drop, List.length_map]
  omega

/-- The sink of a handle through which every push went is handed every entry, in push order. -/
theorem pushAll_world (record : LogEntry → W → W)
    (ps : List (Option (LogEntry → W → W) × LogEntry)) (bw : LogBook × W)
    (h : ∀ p ∈ ps, p.1 = some record) :
    (pushAll ps bw).2 = (ps.map Prod.snd).foldl (fun w e => record e w) bw.2 := by
  induction ps using List.reverseRecOn with
  | nil => rfl
  | append_singleton ps p ih =>
    have hp : p.1 = some record := h p (by simp)
    -- the last push hands its entry to the sink after all the earlier ones
    have hlast : (pushVia p.1 p.2 (pushAll ps bw)).2 = record p.2 (pushAll ps bw).2 := by
      simp [pushVia, hp]
    rw [pushAll_append, pushAll_singleton, hlast, ih fun q hq => h q (by simp [hq]),
      List.map_append, List.foldl_append]
    rfl

/-- The log book after `k` pushes from empty, with capacity `c`: it keeps `min k (max c 1)`
entries, is empty exactly when nothing was pushed, holds the newest `min k (max c 1)` entries
pushed, oldest first, and a sink attached to every handle used has been handed all `k` entries
in push order. Clones share the history: the pushes may go through any handles. -/
theorem keeps_newest (c : Nat) (ps : List (Option (LogEntry → W → W) × LogEntry)) (w : W) :
    (pushAll ps (empty c, w)).1.size = min ps.length (max c 1) ∧
    ((pushAll ps (empty c, w)).1.isEmpty = true ↔ ps = []) ∧
    (pushAll ps (empty c, w)).1.entries = (ps.map Prod.snd).rtake (max c 1) ∧
    ∀ record : LogEntry → W → W, (∀ p ∈ ps, p.1 = some record) →
      (pushAll ps (empty c, w)).2 = (ps.map Prod.snd).foldl (fun w e => record e w) w := by
  refine ⟨pushAll_size c ps w, ?_, pushAll_entries c ps w,
    fun record h => pushAll_world record ps (empty c, w) h⟩
  rw [isEmpty, pushAll_size, beq_iff_eq, ← List.length_eq_zero_iff]
  omega

/-- Three entries pushed into a book of capacity two through a handle whose sink records them:
the sink holds all three, the first already evicted from the book. -/
theorem recording_sink_holds_evicted :
    let record : LogEntry → List LogEntry → List LogEntry := fun e l => l ++ [e]
    let ps := [⟨.info, "a"⟩, ⟨.error, "b"⟩, ⟨.debug, "c"⟩].map fun e => (some record, e)
    (∀ p ∈ ps, p.1 = some record) ∧
      (pushAll ps (empty 2, [])).2 = [⟨.info, "a"⟩, ⟨.error, "b"⟩, ⟨.debug, "c"⟩] := by
  intro record ps
  have hall : ∀ p ∈ ps, p.1 = some record := by simp [ps]
  exact ⟨hall, (keeps_newest 2 ps []).2.2.2 record hall⟩

end LiveViewer.LogBook
