import LiveViewer.Signal.Channel

/-!
# A channel delivers exactly what is sent while it is open

A channel opened to a URL is driven by any sequence of operations: sending a message, closing
it, marking it closed, the far end dropping its receiver, asking whether it is open, asking its
URL. The receiver reads every frame as soon as it arrives. Delivery ends at the first
operation that gives up the sending end or drops the receiver (`Op.ends`), and never resumes.

Main statement (`delivers_while_open`): the frames the receiver reads are the wire texts of the
messages sent before delivery ended, in order; every operation answers as the law of
`Op.expected` says from the operations before it alone: a send or an open check answers whether
delivery has ended, a close whether the sending end was still held (a dropped receiver does not
count), and the URL is the one the channel was opened to.

The proof carries one invariant along the run (`After`): the channel remembers its URL, holds
the sending end exactly when no operation gave it up, the receiver reads exactly when none
dropped it, and no frame waits. One operation keeps it (`apply_after`), and the run follows by
induction on the operations (`exchange_after`).
-/

namespace LiveViewer.SignalingChannel

/-- What can happen to a channel and its far end. -/
inductive Op where
  | send (m : SignalMessage)
  | close
  | markClosed
  | dropReceiver
  | isOpen
  | url

/-- What an operation answers. -/
inductive Answer where
  /-- The boolean a send, a close or an open check returns. -/
  | flag (b : Bool)
  /-- Nothing to answer. -/
  | done
  /-- The URL of the channel. -/
  | url (u : Url)
  deriving DecidableEq

namespace Op

/-- Whether the operation gives up the sending end. -/
def releases : Op → Bool
  | .close | .markClosed => true
  | _ => false

/-- Whether the operation takes the receiver away. -/
def drops : Op → Bool
  | .dropReceiver => true
  | _ => false

/-- Whether the operation ends delivery. -/
def ends (o : Op) : Bool := o.releases || o.drops

/-- The frame the operation hands over when the channel is open. -/
def frame : Op → Option String
  | .send m => some m.encode
  | _ => none

/-- The operation on a channel and its far end, with its answer. -/
def apply : Op → SignalingChannel × Mailbox → Answer × (SignalingChannel × Mailbox)
  | .send m, (c, far) => (.flag (c.send far m).1, (c, (c.send far m).2))
  | .close, (c, far) => (.flag c.close.1, (c.close.2, far))
  | .markClosed, (c, far) => (.done, (c.markClosed, far))
  | .dropReceiver, (c, far) => (.done, (c, far.drop))
  | .isOpen, (c, far) => (.flag (c.isOpen far), (c, far))
  | .url, (c, far) => (.url c.url, (c, far))

/-- The answer the delivery law gives an operation that follows the operations `h` on a channel
opened to `u`. -/
def expected (u : Url) (h : List Op) : Op → Answer
  | .send _ | .isOpen => .flag !(h.any ends)
  | .close => .flag !(h.any releases)
  | .markClosed | .dropReceiver => .done
  | .url => .url u

/-- An operation that ends delivery hands nothing over. -/
theorem frame_eq_none_of_ends {o : Op} (h : o.ends = true) : o.frame = none := by
  cases o <;> simp_all [ends, releases, drops, frame]

end Op

/-- Runs the operations in order on a channel and its far end, the receiver taking the frames
waiting for it after each: every answer, and every frame the receiver took, in order. -/
def exchange : List Op → SignalingChannel × Mailbox → List Answer × List String
  | [], _ => ([], [])
  | o :: rest, s =>
    let (c, far) := (o.apply s).2
    let next := exchange rest (c, far.take.2)
    ((o.apply s).1 :: next.1, far.take.1 ++ next.2)

/-- A channel opened to `u` after the operations `h`, with no frame waiting. -/
structure After (u : Url) (h : List Op) (s : SignalingChannel × Mailbox) : Prop where
  url : s.1.url = u
  holding : s.1.holding = !(h.any Op.releases)
  reading : s.2.reading = !(h.any Op.drops)
  idle : s.2.frames = []

theorem after_open (u : Url) : After u [] ({ url := u }, {}) :=
  ⟨rfl, rfl, rfl, rfl⟩

theorem any_ends (h : List Op) : h.any Op.ends = (h.any Op.releases || h.any Op.drops) := by
  induction h with
  | nil => rfl
  | cons o h ih =>
    simp only [List.any_cons, ih, Op.ends]
    cases o.releases <;> cases o.drops <;> simp

/-- One operation answers by the law, hands the receiver its frame exactly while delivery goes
on, and keeps the invariant. -/
theorem apply_after {u : Url} {h : List Op} {s : SignalingChannel × Mailbox} (hs : After u h s)
    (o : Op) :
    (o.apply s).1 = o.expected u h ∧
      (o.apply s).2.2.take.1 = (if h.any Op.ends then [] else o.frame.toList) ∧
      After u (h ++ [o]) ((o.apply s).2.1, (o.apply s).2.2.take.2) := by
  obtain ⟨c, far⟩ := s
  obtain ⟨hu, hh, hr, hf⟩ := hs
  dsimp only at hu hh hr hf
  -- an open check on the state is an open check on the history
  have hopen : c.isOpen far = !(h.any Op.ends) := by
    rw [isOpen, hh, hr, any_ends, Bool.not_or]
  cases o with
  | send m =>
    -- the one operation whose effect depends on whether delivery goes on
    refine ⟨?_, ?_, ⟨?_, ?_, ?_, ?_⟩⟩ <;> cases hend : h.any Op.ends <;>
      simp_all [Op.apply, Op.expected, send, Mailbox.take, Op.frame, Op.releases, Op.drops]
  | close | markClosed | dropReceiver | isOpen | url =>
    refine ⟨?_, ?_, ⟨?_, ?_, ?_, ?_⟩⟩ <;>
      simp_all [Op.apply, Op.expected, close, markClosed, Mailbox.drop, Mailbox.take, Op.frame,
        Op.releases, Op.drops]

/-- A run from a state after `h`: the `i`-th answer is the law's answer after `h` and the
first `i` operations, and the frames read are those sent before delivery ended. -/
theorem exchange_after {u : Url} (ops : List Op) {h : List Op} {s : SignalingChannel × Mailbox}
    (hs : After u h s) :
    (∀ i, (exchange ops s).1[i]? = ops[i]?.map (Op.expected u (h ++ ops.take i))) ∧
      (exchange ops s).2 =
        (if h.any Op.ends then [] else (ops.takeWhile fun o => !o.ends).filterMap Op.frame) := by
  induction ops generalizing h s with
  | nil => simp [exchange]
  | cons o rest ih =>
    obtain ⟨ha, htake, hs'⟩ := apply_after hs o
    obtain ⟨hanswers, hframes⟩ := ih hs'
    refine ⟨fun i => ?_, ?_⟩
    · -- the head answers after `h`; the rest after `h` and the head
      cases i with
      | zero => simp [exchange, ha]
      | succ i => simp [exchange, hanswers i]
    · simp only [exchange, htake, hframes, List.any_append, List.any_cons, List.any_nil,
        Bool.or_false]
      by_cases hend : h.any Op.ends = true
      · simp [hend]
      · by_cases ho : o.ends = true
        · simp [hend, ho, Op.frame_eq_none_of_ends ho]
        · simp [hend, ho, List.filterMap_cons]
          cases hf : o.frame <;> simp

/-- A channel opened to `u` and driven by any operations: the receiver reads exactly the wire
texts of the messages sent before the first close, mark or receiver drop, in order, and each
operation answers the law's answer from the operations before it. -/
theorem delivers_while_open (u : Url) (ops : List Op) :
    (exchange ops ({ url := u }, {})).2 =
        (ops.takeWhile fun o => !o.ends).filterMap Op.frame ∧
      ∀ i, (exchange ops ({ url := u }, {})).1[i]? = ops[i]?.map (Op.expected u (ops.take i)) := by
  obtain ⟨hanswers, hframes⟩ := exchange_after ops (after_open u)
  exact ⟨by simpa using hframes, fun i => by simpa using hanswers i⟩

end LiveViewer.SignalingChannel
