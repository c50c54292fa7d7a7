import LiveViewer.Proofs.Controller.Journal

/-!
# Runs in which the producers deliver the events

`Machine.Reachable` lets any event arrive at any time. The loop's queue is fed by the producers
the controller started, and each of them delivers only some events: the signaling opener
reports its connect attempt once, a link's pump forwards what the link delivers, a peer
session's pump what the peer session reports, and so on. An event carries the generation its
producer was started in.

`Machine.Faithful c m delivered` says that `m` is reached from a fresh controller with an empty
journal (`Collaborators.journaled`), taking commands at any time and delivering only events
that the producers started so far can deliver (`Deliverable`), `delivered` being the events
taken so far, oldest first. A producer keeps delivering after it was stopped, since what it
queued before is still read, and the events of one producer may come in any order relative to
the others'. What is kept of the producers is what a session's life depends on:

* an event is reported by a producer started in the event's generation (`started`);
* a signaling opener reports once: a generation has no more reports than openers (`once`);
* the link a report brings is a new one, never brought before (`fresh`).

Whether an event can be delivered is read off the journal (`deliverable_iff`), so it is decided
by running the loop on given inputs.
-/

namespace LiveViewer

/-- The events a producer can deliver. -/
def Producer.Reports : Producer → EventKind → Prop
  | .opener url, .signalingOpened url' _ => url' = url
  | .linkPump _, .link _ => True
  | .peerPump _, .peer _ => True
  | .enginePump (some _), .engine _ => True
  | .statsTimer .., .statsReport _ => True
  | .viewerTimer .., .viewerCount _ => True
  | .reconnectTimer _, .reconnectDue => True
  | _, _ => False

/-- The event reports a signaling connect attempt. -/
def EventKind.isOpened : EventKind → Bool
  | .signalingOpened .. => true
  | _ => false

/-- The link a successful signaling connect attempt brings. -/
def EventKind.openedLink : EventKind → Option Nat
  | .signalingOpened _ (.ok l) => some l
  | _ => none

/-- The call starts a signaling opener in generation `g`. -/
def Call.startsOpener (g : Nat) : Call → Bool
  | .spawn g' (.opener _) _ => g' == g
  | _ => false

/-- The producer a call starts, with the generation it is started in and its task. -/
def Call.spawned : Call → Option (Nat × Producer × Nat)
  | .spawn g p task => some (g, p, task)
  | _ => none

@[simp] theorem Call.spawned_eq_some {x : Call} {g task : Nat} {p : Producer} :
    x.spawned = some (g, p, task) ↔ x = .spawn g p task := by
  cases x <;> simp [Call.spawned]

instance Producer.decidableReports (p : Producer) (k : EventKind) : Decidable (p.Reports k) := by
  unfold Producer.Reports
  split <;> infer_instance

namespace Machine

variable {W : Type}

/-- The reports of signaling connect attempts among `delivered` that belong to generation `g`. -/
def openedIn (delivered : List SessionEvent) (g : Nat) : Nat :=
  (delivered.filter fun e => e.generation == g && e.kind.isOpened).length

/-- `e` can be delivered next, after the calls `calls` and the deliveries `delivered`. -/
structure Deliverable (calls : List Call) (delivered : List SessionEvent) (e : SessionEvent) :
    Prop where
  /-- A producer that reports events of this kind was started in the event's generation. -/
  started : ∃ p task, Call.spawn e.generation p task ∈ calls ∧ p.Reports e.kind
  /-- A signaling opener reports once. -/
  once : e.kind.isOpened = true →
    openedIn delivered e.generation < (calls.filter (Call.startsOpener e.generation)).length
  /-- A link is brought once. -/
  fresh : ∀ link, e.kind.openedLink = some link → ∀ e' ∈ delivered, e'.kind.openedLink ≠ some link

/-- Whether an event can be delivered is read off the journal: the producers it started, listed
by `Call.spawned`, and the links that delivered reports brought. -/
theorem deliverable_iff {calls : List Call} {delivered : List SessionEvent} {e : SessionEvent} :
    Deliverable calls delivered e ↔
      (∃ s ∈ calls.filterMap Call.spawned, s.1 = e.generation ∧ s.2.1.Reports e.kind) ∧
      (e.kind.isOpened = true →
        openedIn delivered e.generation < (calls.filter (Call.startsOpener e.generation)).length) ∧
      ∀ e' ∈ delivered, e.kind.openedLink = none ∨ e'.kind.openedLink ≠ e.kind.openedLink := by
  constructor
  · rintro ⟨⟨p, task, hm, hr⟩, honce, hfresh⟩
    refine ⟨⟨(e.generation, p, task), List.mem_filterMap.2 ⟨_, hm, rfl⟩, rfl, hr⟩, honce,
      fun e' he' => ?_⟩
    cases hl : e.kind.openedLink with
    | none => exact .inl rfl
    | some link => exact .inr (hfresh link hl e' he')
  · rintro ⟨⟨⟨g, p, task⟩, hs, rfl, hr⟩, honce, hfresh⟩
    obtain ⟨x, hx, hxs⟩ := List.mem_filterMap.1 hs
    obtain rfl := Call.spawned_eq_some.1 hxs
    refine ⟨⟨p, task, hx, hr⟩, honce, fun link hl e' he' hl' => ?_⟩
    -- the event brings a link, so the delivered report must bring another
    rcases hfresh e' he' with h | h
    · simp [hl] at h
    · exact h (hl'.trans hl.symm)

instance (calls : List Call) (delivered : List SessionEvent) (e : SessionEvent) :
    Decidable (Deliverable calls delivered e) :=
  decidable_of_iff _ deliverable_iff.symm

/-- The states the loop reaches, with the events delivered so far, when every event comes from a
producer that can deliver it. -/
inductive Faithful (c : Collaborators W) : Machine (W × List Call) → List SessionEvent → Prop
  | start (config : ViewerConfig) (world : W) : Faithful c (start config (world, [])) []
  | command {m : Machine (W × List Call)} {delivered : List SessionEvent} (cmd : Command) :
      Faithful c m delivered → Faithful c (m.step c.journaled (.command cmd)) delivered
  | hangUp {m : Machine (W × List Call)} {delivered : List SessionEvent} :
      Faithful c m delivered → Faithful c (m.step c.journaled .hangUp) delivered
  | deliver {m : Machine (W × List Call)} {delivered : List SessionEvent} (e : SessionEvent) :
      Faithful c m delivered → Deliverable m.world.2 delivered e →
        Faithful c (m.step c.journaled (.deliver e)) (delivered ++ [e])

/-- A faithful run is a run of the loop. -/
theorem Faithful.reachable {c : Collaborators W} {m : Machine (W × List Call)}
    {delivered : List SessionEvent} (h : Faithful c m delivered) : Reachable c.journaled m := by
  induction h with
  | start config world => exact .start config (world, [])
  | command cmd _ ih => exact ih.step _
  | hangUp _ ih => exact ih.step _
  | deliver e _ _ ih => exact ih.step _

end Machine

end LiveViewer
