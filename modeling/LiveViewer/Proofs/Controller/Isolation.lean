import LiveViewer.Proofs.Controller.Journal

/-!
# Generation isolation

Every turn of the loop that ends a session or starts one begins a generation, and no other turn
changes it (`Machine.step_generation`); every producer is started under the generation its turn
ends in (`Machine.step_tagged`). Together they decide which events the controller still listens
to. An event tagged by a producer passes the check in `handleEvent` exactly while no generation
has begun since the turn that started the producer; an event that passes it goes to its handler,
and one that does not leaves the controller as it was and touches the world only to give up the
link it brought.
-/

namespace LiveViewer

namespace Machine

variable {W : Type} (c : Collaborators W)

/-- The generations under which producers were started between two machines of a journaled run,
read off the journal. -/
def startedBetween (m m' : Machine (W × List Call)) : List Nat :=
  (m'.world.2.drop m.world.2.length).filterMap Call.startedIn

theorem Tagged.startedBetween_eq {m m' : Machine (W × List Call)} (h : Tagged m m') :
    ∀ g ∈ startedBetween m m', g = m'.ctl.generation := by
  obtain ⟨calls, hw, hc⟩ := h
  simpa [startedBetween, hw] using hc

/-- The generation of a machine is still current after `inputs` exactly when none of them began
a generation. -/
theorem generation_current_iff (m : Machine W) (inputs : List Input) :
    m.ctl.generation = (m.run c inputs).ctl.generation ↔ generationsBegun c m inputs = 0 := by
  rw [run_generation]
  omega

/-- An event of the current generation goes to its handler while the loop runs. -/
theorem step_current (m : Machine W) (e : SessionEvent) (h : e.generation = m.ctl.generation)
    (hr : m.ctl.running = true) :
    m.step c (.deliver e) = ((Act.dispatch c e.kind).run m).2 := by
  simp only [step, hr, if_true]
  rw [Act.handleEvent_current _ h]

/-- An event of another generation leaves the controller as it was; the world only gives up the
link the event brought. -/
theorem step_stale (m : Machine W) (e : SessionEvent) (h : e.generation ≠ m.ctl.generation) :
    m.step c (.deliver e) =
      if m.ctl.running then { m with world := Act.discard c e.kind m.world } else m := by
  simp only [step]
  split
  · rw [Act.handleEvent_stale _ h]
    rfl
  · rfl

theorem generation_isolation :
    (∀ (m : Machine W) (input : Input), (m.step c input).ctl.generation =
        m.ctl.generation + if beginsGeneration m.ctl input then 1 else 0) ∧
    (∀ (m : Machine (W × List Call)) (input : Input),
        ∀ g ∈ startedBetween m (m.step c.journaled input),
          g = (m.step c.journaled input).ctl.generation ∧
          ∀ inputs, g = ((m.step c.journaled input).run c.journaled inputs).ctl.generation ↔
            generationsBegun c.journaled (m.step c.journaled input) inputs = 0) ∧
    (∀ (m : Machine W) (e : SessionEvent), e.generation = m.ctl.generation →
        m.ctl.running = true → m.step c (.deliver e) = ((Act.dispatch c e.kind).run m).2) ∧
    (∀ (m : Machine W) (e : SessionEvent), e.generation ≠ m.ctl.generation →
        (m.step c (.deliver e)).ctl = m.ctl ∧
        (m.step c (.deliver e)).world =
          if m.ctl.running then Act.discard c e.kind m.world else m.world) := by
  refine ⟨step_generation c, ?_, step_current c, ?_⟩
  · intro m input g hg
    -- The tag is the generation the spawning turn ends in, which stays current while no later
    -- turn begins one.
    have hg' := (step_tagged c m input).startedBetween_eq g hg
    refine ⟨hg', fun inputs => ?_⟩
    rw [hg']
    exact generation_current_iff _ _ inputs
  · intro m e h
    rw [step_stale c m e h]
    split <;> simp

end Machine

end LiveViewer
