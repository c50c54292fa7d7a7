import LiveViewer.Proofs.Controller.Sessions

/-!
# The calls a turn makes

Most of what the controller asks of its collaborators is bookkeeping: log entries, overlays,
producers started and stopped, the resources of a session released, frames sent. A few calls
carry what a session is about: media bound to the surface (`setSource`, `addTrack`), the
negotiation with a peer session (`applyAnswer`, `addCandidate`), and the opening of a connection
(a signaling opener started, a peer session created). `Call.routine` tells the two apart.

`Machine.Writes P m m' xs` follows a stretch of handler code through the journal: of the calls it
writes, the kind `P` picks exactly `xs`; the generation does not go back and the loop runs as it
did; and the session live at the end is the one live at the start, with the same stream bound to
the surface, or a new one with no stream bound. Each handler carries it over, from its last step
back to its first, as the tags are carried in `Journal.lean`. For a kind `P` that picks no routine
call, a handler writes none of its calls unless it makes one of the few others itself: a connect
opens a signaling link or binds a playlist, a signaling open creates a peer session, a signal
message negotiates, and a track binds its stream (`onPeerEvent_track`, the one handler that moves
the bound stream). Stopping the loop (`stop_journal`) is the one handler that changes whether the
loop runs.

Per turn, `Machine.step_writes` says this of every turn that neither stops the loop nor delivers a
track, and `Machine.step_writes_of_stays` of every turn that begins no generation, for kinds that
also pick openers and bindings: such a turn connects nothing, since its connects are refused.
-/

namespace LiveViewer

/-- A call the controller makes to keep its books: everything but binding media to the surface,
negotiating with a peer session, and opening a connection. -/
@[simp] def Call.routine : Call → Bool
  | .setSource _ | .addTrack _ | .createPeer .. | .applyAnswer .. | .addCandidate .. => false
  | .spawn _ (.opener _) _ => false
  | _ => true

/-- A kind of call that only routine calls are never of keeps no routine call. -/
theorem Call.filter_eq_nil_of_routine {P : Call → Bool}
    (hP : ∀ x : Call, x.routine = true → P x = false) {calls : List Call}
    (h : ∀ x ∈ calls, x.routine = true) : calls.filter P = [] :=
  List.filter_eq_nil_iff.2 fun x hx hpx => by simp [hP x (h x hx)] at hpx

/-- Calls none of which is picked as not routine are all routine. -/
theorem Call.routine_of_filter_not {calls : List Call}
    (h : calls.filter (fun x => !x.routine) = []) : ∀ x ∈ calls, x.routine = true := by
  intro x hx
  simpa only [Bool.not_eq_true', Bool.not_eq_eq_eq_not, Bool.not_true, Bool.not_eq_false]
    using List.filter_eq_nil_iff.1 h x hx

namespace Collaborators

theorem timerAborts_routine (t : Timers) : ∀ x ∈ timerAborts t, x.routine = true := by
  intro x hx
  obtain ⟨id, -, rfl⟩ := List.mem_map.1 hx
  rfl

theorem releaseCalls_routine (s : ActiveSession) (stats : Option Nat) :
    ∀ x ∈ releaseCalls s stats, x.routine = true := by
  intro x hx
  simp only [releaseCalls, List.mem_append, List.mem_map] at hx
  rcases hx with ((((⟨_, -, rfl⟩ | ⟨_, -, rfl⟩) | hx) | ⟨_, -, rfl⟩) | hx) | hx
  · rfl
  · rfl
  · split at hx <;> simp_all
  · rfl
  · (repeat' split at hx) <;> simp_all
  · simp_all

/-- Stopping the timers and releasing the session is bookkeeping. -/
theorem teardownCalls_routine (k : Controller) : ∀ x ∈ teardownCalls k, x.routine = true := by
  intro x hx
  unfold teardownCalls at hx
  rcases List.mem_append.1 hx with hx | hx
  · exact timerAborts_routine _ x hx
  · split at hx
    · simp at hx
    · exact releaseCalls_routine _ _ x hx

end Collaborators

namespace Machine

variable {W : Type}

/-- From `m` to `m'` the journal grew by calls of which `P` picks `xs`, the generation did not go
back, the loop runs as it did, and a session live at `m'` is the one live at `m`, in the same
generation and with the same stream bound to the surface, or a session of a later generation with
no stream bound. -/
structure Writes (P : Call → Bool) (m m' : Machine (W × List Call)) (xs : List Call) : Prop where
  calls : ∃ calls, m'.world.2 = m.world.2 ++ calls ∧ calls.filter P = xs
  generation : m.ctl.generation ≤ m'.ctl.generation
  running : m'.ctl.running = m.ctl.running
  bound : ∀ s', m'.ctl.session = some s' →
    (∃ s, m.ctl.session = some s ∧ s'.generation = s.generation ∧
      s'.boundStream = s.boundStream) ∨
    (m.ctl.generation < s'.generation ∧ s'.boundStream = none)

namespace Writes

variable {P : Call → Bool} {m₀ m m₁ m₂ m₃ m' : Machine (W × List Call)} {xs ys : List Call}

theorem refl (m : Machine (W × List Call)) : Writes P m m [] :=
  ⟨⟨[], by simp, rfl⟩, Nat.le_refl _, rfl, fun s' h => .inl ⟨s', h, rfl, rfl⟩⟩

theorem trans (h₁ : Writes P m₁ m₂ xs) (h₂ : Writes P m₂ m₃ ys) : Writes P m₁ m₃ (xs ++ ys) where
  calls := by
    obtain ⟨calls₁, hw₁, hf₁⟩ := h₁.calls
    obtain ⟨calls₂, hw₂, hf₂⟩ := h₂.calls
    exact ⟨calls₁ ++ calls₂, by rw [hw₂, hw₁, List.append_assoc],
      by rw [List.filter_append, hf₁, hf₂]⟩
  generation := Nat.le_trans h₁.generation h₂.generation
  running := h₂.running.trans h₁.running
  bound s₃ hs₃ := by
    rcases h₂.bound s₃ hs₃ with ⟨s₂, hs₂, hg₂, hb₂⟩ | ⟨hlt, hb⟩
    · rcases h₁.bound s₂ hs₂ with ⟨s₁, hs₁, hg₁, hb₁⟩ | ⟨hlt, hb⟩
      · exact .inl ⟨s₁, hs₁, hg₂.trans hg₁, hb₂.trans hb₁⟩
      · exact .inr ⟨hg₂ ▸ hlt, hb₂.trans hb⟩
    · -- A session newer than the middle state is newer than the start.
      exact .inr ⟨Nat.lt_of_le_of_lt h₁.generation hlt, hb⟩

/-- A step that writes `calls`, of which `P` picks `ys`, keeps the generation and whether the loop
runs, and keeps the live session's generation and bound stream. -/
theorem extend (h : Writes P m₀ m xs) (calls ys : List Call) (hw : m'.world.2 = m.world.2 ++ calls)
    (hc : calls.filter P = ys) (hg : m'.ctl.generation = m.ctl.generation)
    (hr : m'.ctl.running = m.ctl.running)
    (hs : ∀ s', m'.ctl.session = some s' → ∃ s, m.ctl.session = some s ∧
      s'.generation = s.generation ∧ s'.boundStream = s.boundStream) :
    Writes P m₀ m' (xs ++ ys) :=
  h.trans ⟨⟨calls, hw, hc⟩, Nat.le_of_eq hg.symm, hr, fun s' h' => .inl (hs s' h')⟩

/-- A step that only writes calls `P` does not pick, and leaves the session alone. -/
theorem extend_nil (h : Writes P m₀ m xs) (calls : List Call)
    (hw : m'.world.2 = m.world.2 ++ calls) (hc : calls.filter P = [])
    (hk : m'.ctl.generation = m.ctl.generation ∧ m'.ctl.running = m.ctl.running ∧
      m'.ctl.session = m.ctl.session) : Writes P m₀ m' xs := by
  simpa using h.extend calls [] hw hc hk.1 hk.2.1 fun s' hs' => ⟨s', hk.2.2 ▸ hs', rfl, rfl⟩

/-- A step after which no session is live, that keeps the generation and whether the loop runs. -/
theorem extend_closed (h : Writes P m₀ m xs) (calls : List Call)
    (hw : m'.world.2 = m.world.2 ++ calls) (hc : calls.filter P = [])
    (hg : m.ctl.generation ≤ m'.ctl.generation) (hr : m'.ctl.running = m.ctl.running)
    (hs : m'.ctl.session = none) : Writes P m₀ m' xs := by
  simpa using h.trans ⟨⟨calls, hw, hc⟩, hg, hr, fun s' hs' => by simp [hs] at hs'⟩

end Writes

end Machine

/-- The call a signal message asks of peer session `peer`: an answer is applied, and a remote
candidate added as the channel reads it; an offer and a server error ask for none. -/
def SignalMessage.peerCall (peer : Nat) : SignalMessage → Option Call
  | .answer sdp => some (.applyAnswer peer sdp)
  | .iceCandidate candidate sdpMid sdpMLineIndex =>
    some (.addCandidate peer (RemoteCandidate.ofSignal candidate sdpMid sdpMLineIndex))
  | .offer .. | .error _ => none

/-- The call an inbound frame asks of peer session `peer`: its message's, when it is one. -/
def Inbound.peerCall (peer : Nat) : Inbound → Option Call
  | .message msg => msg.peerCall peer
  | .unrecognized .. => none

/-- The call a link event asks of peer session `peer`: that of the frame it brought, if a text
frame. -/
def LinkEvent.peerCall (peer : Nat) : LinkEvent → Option Call
  | .text raw => (Inbound.ofFrame raw).peerCall peer
  | _ => none

/-- The calls on the surface a track of `stream` makes while the live session has `bound` bound:
the first track binds its stream, a later track of that stream is added, a track of another stream
is dropped. -/
def Collaborators.trackCalls (bound : Option String) (stream : RemoteStream) : List Call :=
  match bound with
  | none => [.setSource (.remote stream)]
  | some id => if id = stream.streamId then [.addTrack stream] else []

/-- The call an event asks of peer session `peer`: that of a link event's frame. -/
def EventKind.peerCall (peer : Nat) : EventKind → Option Call
  | .link e => e.peerCall peer
  | _ => none

/-- A disconnect keeps the loop running as it was. -/
@[simp] theorem Controller.disconnected_running (k : Controller) :
    k.disconnected.running = k.running := by
  unfold Controller.disconnected
  split
  · split <;> rfl
  · simp

namespace Act

open Machine Collaborators

variable {W : Type} (c : Collaborators W) {P : Call → Bool} {m₀ m : Machine (W × List Call)}
  {xs : List Call}

/-! ## Primitive steps

Each lemma carries `Writes P m₀ m xs` over one step taken from `m`. -/

theorem update_writes (f : Controller → Controller)
    (hf : ∀ k, (f k).generation = k.generation ∧ (f k).running = k.running ∧
      (f k).session = k.session)
    (h : Writes P m₀ m xs) : Writes P m₀ ((update f : Act (W × List Call) Unit).run m).2 xs :=
  h.extend_nil [] (by simp) rfl (hf m.ctl)

theorem updateSession_writes (f : ActiveSession → ActiveSession)
    (hf : ∀ s, (f s).generation = s.generation ∧ (f s).boundStream = s.boundStream)
    (h : Writes P m₀ m xs) :
    Writes P m₀ ((updateSession f : Act (W × List Call) Unit).run m).2 xs := by
  refine List.append_nil xs ▸ h.extend [] [] (by simp) rfl rfl rfl fun s' hs' => ?_
  simp only [updateSession_run, pure_snd] at hs'
  obtain ⟨s, hs, rfl⟩ := Option.map_eq_some_iff.1 hs'
  exact ⟨s, hs, (hf s).1, (hf s).2⟩

theorem updateTimers_writes (f : Timers → Timers) (h : Writes P m₀ m xs) :
    Writes P m₀ ((updateTimers f : Act (W × List Call) Unit).run m).2 xs :=
  h.extend_nil [] (by simp) rfl ⟨rfl, rfl, rfl⟩

theorem publish_writes (h : Writes P m₀ m xs) :
    Writes P m₀ ((publish : Act (W × List Call) Unit).run m).2 xs :=
  h.extend_nil [] (by simp) rfl ⟨rfl, rfl, rfl⟩

/-- A call on the world that writes no call `P` picks. -/
theorem touch_writes (f : W × List Call → W × List Call)
    (hf : ∀ w, ∃ calls, (f w).2 = w.2 ++ calls ∧ calls.filter P = []) (h : Writes P m₀ m xs) :
    Writes P m₀ ((touch f).run m).2 xs := by
  obtain ⟨calls, hw, hc⟩ := hf m.world
  exact h.extend_nil calls hw hc ⟨rfl, rfl, rfl⟩

/-- A question to the world that writes calls of which `P` picks `ys`. -/
theorem ask_writes_append {α : Type} (f : W × List Call → α × (W × List Call)) (ys : List Call)
    (hf : ∃ calls, (f m.world).2.2 = m.world.2 ++ calls ∧ calls.filter P = ys)
    (h : Writes P m₀ m xs) : Writes P m₀ ((ask f).run m).2 (xs ++ ys) := by
  obtain ⟨calls, hw, hc⟩ := hf
  exact h.extend calls ys hw hc rfl rfl fun s' hs' => ⟨s', hs', rfl, rfl⟩

/-- A question to the world that writes no call `P` picks. -/
theorem ask_writes {α : Type} (f : W × List Call → α × (W × List Call))
    (hf : ∀ w, ∃ calls, (f w).2.2 = w.2 ++ calls ∧ calls.filter P = []) (h : Writes P m₀ m xs) :
    Writes P m₀ ((ask f).run m).2 xs := by
  obtain ⟨calls, hw, hc⟩ := hf m.world
  exact h.extend_nil calls hw hc ⟨rfl, rfl, rfl⟩

/-- Starting a producer whose start `P` does not pick. -/
theorem spawn_writes (p : Producer) (hp : ∀ g task, P (.spawn g p task) = false)
    (h : Writes P m₀ m xs) : Writes P m₀ ((spawn c.journaled p).run m).2 xs :=
  h.extend_nil [.spawn m.ctl.generation p (c.spawn m.ctl.generation p m.world.1).1] (by simp)
    (by simp [hp]) ⟨rfl, rfl, rfl⟩

theorem onStatsReport_writes (report : Option InboundReport) (h : Writes P m₀ m xs) :
    Writes P m₀ ((onStatsReport report : Act (W × List Call) Unit).run m).2 xs := by
  -- A stats reading only changes the sampler and the figures.
  have hw : ((onStatsReport report : Act (W × List Call) Unit).run m).2.world = m.world := by
    cases hs : m.ctl.status <;> cases report <;> simp [onStatsReport, hs]
  refine h.extend_nil [] (by rw [hw, List.append_nil]) rfl ?_
  rw [onStatsReport_ctl]
  split <;> exact ⟨rfl, rfl, rfl⟩

theorem onViewerCount_writes (result : Except String UInt32) (h : Writes P m₀ m xs) :
    Writes P m₀ ((onViewerCount result : Act (W × List Call) Unit).run m).2 xs := by
  cases result with
  | ok count =>
    simp only [onViewerCount, StateT.run_bind, id_bind]
    exact publish_writes (update_writes _ (fun _ => by exact ⟨rfl, rfl, rfl⟩) h)
  | error message => exact h

/-- Marking connected keeps the session, the generation and the loop, and moves Connecting, and
nothing else, to Connected. -/
theorem markConnected_keeps (m : Machine W) :
    let k := ((markConnected c).run m).2.ctl
    k.session = m.ctl.session ∧ k.generation = m.ctl.generation ∧ k.running = m.ctl.running ∧
      k.status = if m.ctl.status = .connecting then .connected else m.ctl.status := by
  by_cases hs : m.ctl.status = .connecting
  · obtain ⟨viewer, h⟩ := markConnected_ctl c hs
    simp [h, hs]
  · rw [markConnected_of_ne c hs]
    simp [hs]

section Routine

variable (hP : ∀ x : Call, x.routine = true → P x = false)
include hP

theorem log_writes (level : Level) (message : String) (h : Writes P m₀ m xs) :
    Writes P m₀ ((log c.journaled level message).run m).2 xs :=
  h.extend_nil [.record ⟨level, message⟩] (by simp) (by simp [hP (.record _) rfl]) ⟨rfl, rfl, rfl⟩

theorem setOverlay_writes (overlay : Option String) (h : Writes P m₀ m xs) :
    Writes P m₀ ((setOverlay c.journaled overlay).run m).2 xs :=
  h.extend_nil [.showOverlay overlay] (by simp) (by simp [hP (.showOverlay _) rfl]) ⟨rfl, rfl, rfl⟩

/-- A call on the world that writes only routine calls. -/
theorem touch_routine_writes (f : W × List Call → W × List Call)
    (hf : ∀ w, ∃ calls, (f w).2 = w.2 ++ calls ∧ ∀ x ∈ calls, x.routine = true)
    (h : Writes P m₀ m xs) : Writes P m₀ ((touch f).run m).2 xs :=
  touch_writes f (fun w => by
    obtain ⟨calls, hw, hr⟩ := hf w
    exact ⟨calls, hw, Call.filter_eq_nil_of_routine hP hr⟩) h

/-- A question to the world that writes only routine calls. -/
theorem ask_routine_writes {α : Type} (f : W × List Call → α × (W × List Call))
    (hf : ∀ w, ∃ calls, (f w).2.2 = w.2 ++ calls ∧ ∀ x ∈ calls, x.routine = true)
    (h : Writes P m₀ m xs) : Writes P m₀ ((ask f).run m).2 xs :=
  ask_writes f (fun w => by
    obtain ⟨calls, hw, hr⟩ := hf w
    exact ⟨calls, hw, Call.filter_eq_nil_of_routine hP hr⟩) h

/-! ## Teardown -/

theorem endSession_writes (h : Writes P m₀ m xs) :
    Writes P m₀ ((endSession c.journaled).run m).2 xs := by
  refine h.extend_closed (teardownCalls m.ctl ++ [.showOverlay (some disconnectedOverlay)])
    (by rw [endSession_world]; simp [journaled_teardown])
    (Call.filter_eq_nil_of_routine hP
      (List.forall_mem_append.2 ⟨teardownCalls_routine _, by simp⟩)) ?_ ?_ ?_
  all_goals rw [endSession_ctl]; simp [Controller.ended]

theorem failSetup_writes (e : ViewerError) (h : Writes P m₀ m xs) :
    Writes P m₀ ((failSetup c.journaled e).run m).2 xs := by
  simp only [failSetup, StateT.run_bind, id_bind]
  exact endSession_writes c hP (log_writes c hP _ _ h)

theorem disconnect_writes (h : Writes P m₀ m xs) :
    Writes P m₀ ((disconnect c.journaled).run m).2 xs := by
  have hk : ((disconnect c.journaled).run m).2.ctl = m.ctl.disconnected := disconnect_ctl _ m
  -- A live session is released, shown and logged; without one only the timers stop.
  have hw : ∃ calls, ((disconnect c.journaled).run m).2.world.2 = m.world.2 ++ calls ∧
      ∀ x ∈ calls, x.routine = true := by
    rw [disconnect_world]
    cases hs : m.ctl.session with
    | none => exact ⟨teardownCalls m.ctl, by simp [journaled_teardown], teardownCalls_routine _⟩
    | some s =>
      exact ⟨teardownCalls m.ctl ++ [.showOverlay (some disconnectedOverlay),
        .record ⟨.info, "Disconnected"⟩], by simp [journaled_teardown],
        List.forall_mem_append.2 ⟨teardownCalls_routine _, by simp⟩⟩
  obtain ⟨calls, hw, hr⟩ := hw
  exact h.extend_closed calls hw (Call.filter_eq_nil_of_routine hP hr) (by simp [hk])
    (by simp [hk]) (by simp [hk])

/-- Stopping the loop makes only routine calls, and leaves no session. -/
theorem stop_journal (m : Machine (W × List Call)) :
    (∃ calls, ((stop c.journaled).run m).2.world.2 = m.world.2 ++ calls ∧ calls.filter P = []) ∧
      ((stop c.journaled).run m).2.ctl.session = none := by
  refine ⟨?_, by simp [stop_ctl]⟩
  obtain ⟨⟨calls, hw, hc⟩, -⟩ := disconnect_writes c hP (Writes.refl m)
  exact ⟨calls, by simpa [stop] using hw, by simpa using hc⟩

/-! ## Handlers of bookkeeping only -/

theorem scheduleReconnect_writes (request : ConnectRequest) (delayMs : Nat)
    (h : Writes P m₀ m xs) :
    Writes P m₀ ((scheduleReconnect c.journaled request delayMs).run m).2 xs := by
  unfold scheduleReconnect
  simp only [StateT.run_bind, current_run, id_bind, pure_fst, pure_snd]
  have h₁ := spawn_writes c (.reconnectTimer delayMs) (fun _ _ => hP (.spawn _ _ _) rfl) h
  split
  · simp only [StateT.run_bind, id_bind]
    exact updateTimers_writes _ (touch_routine_writes hP _ (fun _ => ⟨_, rfl, by simp⟩) h₁)
  · exact updateTimers_writes _ h₁

theorem transportFailure_writes (state : PeerState) (h : Writes P m₀ m xs) :
    Writes P m₀ ((transportFailure c.journaled state).run m).2 xs := by
  unfold transportFailure
  simp only [StateT.run_bind, current_run, id_bind, pure_fst, pure_snd]
  split
  · simp only [StateT.run_bind, current_run, id_bind, pure_fst, pure_snd]
    exact scheduleReconnect_writes c hP _ _ (log_writes c hP _ _
      (endSession_writes c hP (log_writes c hP _ _ h)))
  · exact endSession_writes c hP (log_writes c hP _ _ h)

theorem startViewerCountTimer_writes (h : Writes P m₀ m xs) :
    Writes P m₀ ((startViewerCountTimer c.journaled).run m).2 xs := by
  unfold startViewerCountTimer
  simp only [StateT.run_bind, current_run, id_bind, pure_fst, pure_snd]
  split
  · exact h
  · split
    · simp only [StateT.run_bind, id_bind]
      exact updateTimers_writes _ (spawn_writes c _ (fun _ _ => hP (.spawn _ _ _) rfl) h)
    · exact h

theorem startStatsSampler_writes (h : Writes P m₀ m xs) :
    Writes P m₀ ((startStatsSampler c.journaled).run m).2 xs := by
  unfold startStatsSampler
  simp only [StateT.run_bind, current_run, id_bind, pure_fst, pure_snd]
  split
  · exact h
  · split
    · simp only [StateT.run_bind, id_bind]
      exact updateTimers_writes _ (spawn_writes c _ (fun _ _ => hP (.spawn _ _ _) rfl)
        (update_writes _ (fun _ => by exact ⟨rfl, rfl, rfl⟩) h))
    · exact h

theorem markConnected_writes (h : Writes P m₀ m xs) :
    Writes P m₀ ((markConnected c.journaled).run m).2 xs := by
  by_cases hs : m.ctl.status = .connecting
  · simp only [markConnected, StateT.run_bind, current_run, hs, id_bind, pure_fst, pure_snd,
      bne_self_eq_false, Bool.false_eq_true, if_false]
    exact publish_writes (startViewerCountTimer_writes c hP (log_writes c hP _ _
      (setOverlay_writes c hP _ (update_writes _ (fun _ => by exact ⟨rfl, rfl, rfl⟩) h))))
  · rw [markConnected_of_ne _ hs]
    exact h

theorem handlePlayback_writes (event : PlaybackEvent) (h : Writes P m₀ m xs) :
    Writes P m₀ ((handlePlayback c.journaled event).run m).2 xs := by
  unfold handlePlayback
  cases event with
  | error message => exact publish_writes (setOverlay_writes c hP _ (log_writes c hP _ _ h))
  | _ => exact publish_writes (setOverlay_writes c hP _ h)

theorem sendSignal_writes (msg : SignalMessage) (h : Writes P m₀ m xs) :
    Writes P m₀ ((sendSignal c.journaled msg).run m).2 xs := by
  unfold sendSignal
  simp only [StateT.run_bind, current_run, id_bind, pure_fst, pure_snd]
  split
  · split
    · exact touch_routine_writes hP _ (fun _ => ⟨_, rfl, by simp⟩) h
    · exact h
  · exact h

theorem onSignalingClosed_writes (h : Writes P m₀ m xs) :
    Writes P m₀ ((onSignalingClosed c.journaled).run m).2 xs := by
  unfold onSignalingClosed
  simp only [StateT.run_bind, current_run, id_bind, pure_fst, pure_snd]
  -- Marking the channel closed keeps the session's generation and bound stream.
  split
  · split
    · simp only [StateT.run_bind, current_run, id_bind, pure_fst, pure_snd]
      split
      · exact endSession_writes c hP (log_writes c hP _ _ (updateSession_writes _
          (fun _ => by exact ⟨rfl, rfl⟩)
          (touch_routine_writes hP _ (fun _ => ⟨_, rfl, by simp⟩) h)))
      · exact log_writes c hP _ _ (updateSession_writes _ (fun _ => by exact ⟨rfl, rfl⟩)
          (touch_routine_writes hP _ (fun _ => ⟨_, rfl, by simp⟩) h))
    · simp only [StateT.run_bind, current_run, id_bind, pure_fst, pure_snd]
      split
      · exact endSession_writes c hP (log_writes c hP _ _
          (updateSession_writes _ (fun _ => by exact ⟨rfl, rfl⟩) h))
      · exact log_writes c hP _ _ (updateSession_writes _ (fun _ => by exact ⟨rfl, rfl⟩) h)
  · simp only [StateT.run_bind, current_run, id_bind, pure_fst, pure_snd]
    split
    · exact endSession_writes c hP (log_writes c hP _ _ h)
    · exact log_writes c hP _ _ h

theorem onPeerState_writes (state : PeerState) (h : Writes P m₀ m xs) :
    Writes P m₀ ((onPeerState c.journaled state).run m).2 xs := by
  unfold onPeerState
  cases state with
  | connected =>
    simp only [StateT.run_bind, id_bind]
    exact startStatsSampler_writes c hP (markConnected_writes c hP h)
  | failed | disconnected =>
    simp only [StateT.run_bind, current_run, id_bind, pure_fst, pure_snd]
    split
    · exact transportFailure_writes c hP _ h
    · exact failSetup_writes c hP _ h
    · exact h
  | new | connecting | closed => exact h

theorem onEngineEvent_writes (e : EngineEvent) (h : Writes P m₀ m xs) :
    Writes P m₀ ((onEngineEvent c.journaled e).run m).2 xs := by
  unfold onEngineEvent
  cases e with
  | manifestParsed => exact markConnected_writes c hP h
  | error message =>
    simp only [StateT.run_bind, current_run, id_bind, pure_fst, pure_snd]
    split
    · exact failSetup_writes c hP _ h
    · exact log_writes c hP _ _ h
  | ended => exact log_writes c hP _ _ h

/-! ## Handlers that open, bind or negotiate

Each of these makes one of the calls `Call.routine` leaves out; a hypothesis says that `P` does not
pick it, or the lemma names what `P` picks of it. -/

theorem openSignaling_writes (hop : ∀ g url task, P (.spawn g (.opener url) task) = false)
    (request : ConnectRequest) (h : Writes P m₀ m xs) :
    Writes P m₀ ((openSignaling c.journaled request).run m).2 xs := by
  unfold openSignaling
  split
  · exact failSetup_writes c hP _ h
  · simp only [StateT.run_bind, id_bind]
    exact updateSession_writes _ (fun _ => by exact ⟨rfl, rfl⟩)
      (spawn_writes c _ (fun _ _ => hop _ _ _) h)

theorem attachSegmented_writes
    (hsrc : ∀ url, P (.setSource (.manifest url)) = false ∧
      P (.setSource (.segmentFeed url)) = false)
    (manifest : Url) (h : Writes P m₀ m xs) :
    Writes P m₀ ((attachSegmented c.journaled manifest).run m).2 xs := by
  unfold attachSegmented
  simp only [StateT.run_bind, id_bind, journaled_startEngine]
  split
  · simp only [StateT.run_bind, id_bind, StateT.run_pure, pure_snd]
    exact touch_writes _ (fun _ => ⟨_, rfl, by simp [(hsrc manifest).1]⟩) h
  · -- Without a native player the engine factory is asked, through the journal.
    cases c.startEngine with
    | none => exact h
    | some start =>
      simp only [Option.map_some, StateT.run_bind, id_bind]
      split <;> simp only [StateT.run_pure, pure_snd] <;>
        exact ask_routine_writes hP _ (fun _ => ⟨_, rfl, by simp⟩)
          (touch_writes _ (fun _ => ⟨_, rfl, by simp [(hsrc manifest).2]⟩) h)

theorem startSegmented_writes
    (hsrc : ∀ url, P (.setSource (.manifest url)) = false ∧
      P (.setSource (.segmentFeed url)) = false)
    (request : ConnectRequest) (h : Writes P m₀ m xs) :
    Writes P m₀ ((startSegmented c.journaled request).run m).2 xs := by
  unfold startSegmented
  cases manifestUrl request.serverEndpoint request.streamKey with
  | error e => exact failSetup_writes c hP _ h
  | ok manifest =>
    simp only [StateT.run_bind, id_bind]
    have h₁ := attachSegmented_writes c hP hsrc manifest h
    split
    · exact failSetup_writes c hP _ h₁
    · simp only [StateT.run_bind, id_bind]
      split
      · exact markConnected_writes c hP (updateSession_writes _ (fun _ => by exact ⟨rfl, rfl⟩)
          (spawn_writes c _ (fun _ _ => hP (.spawn _ _ _) rfl) h₁))
      · exact updateSession_writes _ (fun _ => by exact ⟨rfl, rfl⟩)
          (spawn_writes c _ (fun _ _ => hP (.spawn _ _ _) rfl) h₁)

theorem startTransport_writes (hop : ∀ g url task, P (.spawn g (.opener url) task) = false)
    (hsrc : ∀ url, P (.setSource (.manifest url)) = false ∧
      P (.setSource (.segmentFeed url)) = false)
    (request : ConnectRequest)
    (h : Writes P m₀ m xs) : Writes P m₀ ((startTransport c.journaled request).run m).2 xs := by
  unfold startTransport
  split
  · exact openSignaling_writes c hP hop request h
  · exact startSegmented_writes c hP hsrc request h

theorem startNegotiation_writes (hpeer : ∀ servers answer, P (.createPeer servers answer) = false)
    (h : Writes P m₀ m xs) : Writes P m₀ ((startNegotiation c.journaled).run m).2 xs := by
  unfold startNegotiation
  simp only [StateT.run_bind, current_run, id_bind, pure_fst, pure_snd]
  have h₁ := ask_writes (c.journaled.createPeer m.ctl.config.iceServers)
    (fun _ => ⟨_, rfl, by simp [hpeer]⟩) h
  split
  · simp only [StateT.run_pure, pure_snd]
    exact h₁
  · rename_i peer _
    simp only [StateT.run_bind, current_run, id_bind, pure_fst, pure_snd]
    have h₂ := spawn_writes c (.peerPump peer) (fun _ _ => hP (.spawn _ _ _) rfl) h₁
    split
    · -- The session went away: the new peer session and its pump are given up at once.
      simp only [StateT.run_bind, id_bind, StateT.run_pure, pure_snd]
      exact touch_routine_writes hP _ (fun _ => ⟨_, rfl, by simp⟩)
        (touch_routine_writes hP _ (fun _ => ⟨_, rfl, by simp⟩) h₂)
    · simp only [StateT.run_bind, id_bind]
      split
      · simp only [StateT.run_pure, pure_snd]
        exact ask_routine_writes hP _ (fun _ => ⟨_, rfl, by simp⟩)
          (updateSession_writes _ (fun _ => by exact ⟨rfl, rfl⟩) h₂)
      · simp only [StateT.run_bind, id_bind, StateT.run_pure, pure_snd]
        exact sendSignal_writes c hP _ (ask_routine_writes hP _ (fun _ => ⟨_, rfl, by simp⟩)
          (updateSession_writes _ (fun _ => by exact ⟨rfl, rfl⟩) h₂))

theorem onSignalingOpened_writes (hpeer : ∀ servers answer, P (.createPeer servers answer) = false)
    (url : Url) (result : Except SignalingError Nat) (h : Writes P m₀ m xs) :
    Writes P m₀ ((onSignalingOpened c.journaled url result).run m).2 xs := by
  unfold onSignalingOpened
  simp only [StateT.run_bind, current_run, id_bind, pure_fst, pure_snd]
  split
  · split
    · simp only [StateT.run_bind, id_bind, StateT.run_pure, pure_snd]
      exact touch_routine_writes hP _ (fun _ => ⟨_, rfl, by simp⟩) h
    · exact h
  · split
    · simp only [StateT.run_bind, id_bind]
      exact endSession_writes c hP (log_writes c hP _ _ h)
    · rename_i link
      simp only [StateT.run_bind, current_run, id_bind, pure_fst, pure_snd]
      have h₁ := spawn_writes c (.linkPump link) (fun _ _ => hP (.spawn _ _ _) rfl)
        (log_writes c hP .info ("Signaling connected to " ++ url.text) h)
      -- With no session left the sending end is dropped at once.
      split
      · simp only [StateT.run_bind, id_bind]
        split
        · exact failSetup_writes c hP _ (startNegotiation_writes c hP hpeer (updateSession_writes _
            (fun _ => by exact ⟨rfl, rfl⟩)
            (touch_routine_writes hP _ (fun _ => ⟨_, rfl, by simp⟩) h₁)))
        · exact startNegotiation_writes c hP hpeer (updateSession_writes _
            (fun _ => by exact ⟨rfl, rfl⟩)
            (touch_routine_writes hP _ (fun _ => ⟨_, rfl, by simp⟩) h₁))
      · simp only [StateT.run_bind, id_bind]
        split
        · exact failSetup_writes c hP _ (startNegotiation_writes c hP hpeer
            (updateSession_writes _ (fun _ => by exact ⟨rfl, rfl⟩) h₁))
        · exact startNegotiation_writes c hP hpeer
            (updateSession_writes _ (fun _ => by exact ⟨rfl, rfl⟩) h₁)

/-- A signal message makes the call it asks of the live session's peer session, if there is one,
and nothing else `P` picks. -/
theorem dispatchSignal_writes (msg : SignalMessage) (h : Writes P m₀ m xs) :
    Writes P m₀ ((dispatchSignal c.journaled msg).run m).2
      (xs ++ ((m.ctl.session.bind (·.peer)).bind msg.peerCall).toList.filter P) := by
  unfold dispatchSignal
  cases msg with
  | answer sdp =>
    cases hpeer : m.ctl.session.bind (·.peer) with
    | none =>
      simp only [StateT.run_bind, current_run, id_bind, pure_fst, pure_snd, hpeer]
      simpa using h
    | some peer =>
      simp only [StateT.run_bind, current_run, id_bind, pure_fst, pure_snd, hpeer,
        Option.bind_some, SignalMessage.peerCall, Option.toList_some]
      split
      · simp only [StateT.run_pure, pure_snd]
        exact ask_writes_append _ _ ⟨_, rfl, rfl⟩ h
      · simp only [StateT.run_bind, current_run, id_bind, pure_fst, pure_snd]
        split
        · exact failSetup_writes c hP _ (ask_writes_append _ _ ⟨_, rfl, rfl⟩ h)
        · exact log_writes c hP _ _ (ask_writes_append _ _ ⟨_, rfl, rfl⟩ h)
  | iceCandidate candidate sdpMid sdpMLineIndex =>
    cases hpeer : m.ctl.session.bind (·.peer) with
    | none =>
      simp only [StateT.run_bind, current_run, id_bind, pure_fst, pure_snd, hpeer]
      simpa using h
    | some peer =>
      simp only [StateT.run_bind, current_run, id_bind, pure_fst, pure_snd, hpeer,
        Option.bind_some, SignalMessage.peerCall, Option.toList_some]
      split
      · simp only [StateT.run_pure, pure_snd]
        exact ask_writes_append _ _ ⟨_, rfl, rfl⟩ h
      · exact log_writes c hP _ _ (ask_writes_append _ _ ⟨_, rfl, rfl⟩ h)
  | error message => simpa [SignalMessage.peerCall] using log_writes c hP _ _ h
  | offer => simpa [SignalMessage.peerCall] using log_writes c hP _ _ h

/-- A link event makes what its frame asks of the live session's peer session, if anything, and
nothing else `P` picks. -/
theorem onLinkEvent_writes (e : LinkEvent) (h : Writes P m₀ m xs) :
    Writes P m₀ ((onLinkEvent c.journaled e).run m).2
      (xs ++ ((m.ctl.session.bind (·.peer)).bind e.peerCall).toList.filter P) := by
  unfold onLinkEvent
  cases e with
  | text raw =>
    dsimp only
    split
    · rename_i msg hmsg
      simpa [LinkEvent.peerCall, Inbound.peerCall, hmsg] using dispatchSignal_writes c hP msg h
    · rename_i hmsg
      simpa [LinkEvent.peerCall, Inbound.peerCall, hmsg] using log_writes c hP _ _ h
  | binary length => simpa [LinkEvent.peerCall] using log_writes c hP _ _ h
  | error message => simpa [LinkEvent.peerCall] using log_writes c hP _ _ h
  | closed => simpa [LinkEvent.peerCall] using onSignalingClosed_writes c hP h

/-- A peer event other than a track writes no call `P` picks. -/
theorem onPeerEvent_writes (e : PeerEvent) (he : ∀ stream, e ≠ .track stream)
    (h : Writes P m₀ m xs) : Writes P m₀ ((onPeerEvent c.journaled e).run m).2 xs := by
  unfold onPeerEvent
  cases e with
  | track stream => exact absurd rfl (he stream)
  | localCandidate candidate sdpMid sdpMLineIndex => exact sendSignal_writes c hP _ h
  | stateChanged state => exact onPeerState_writes c hP state h

end Routine

/-- A track reaches the surface as `trackCalls` says and binds its stream if none was bound; it
marks a connecting session connected, and everything else it writes is routine. -/
theorem onPeerEvent_track (stream : RemoteStream) {s : ActiveSession}
    (hs : m.ctl.session = some s) :
    let m' := ((onPeerEvent c.journaled (.track stream)).run m).2
    (∃ calls, m'.world.2 = m.world.2 ++ trackCalls s.boundStream stream ++ calls ∧
      ∀ x ∈ calls, x.routine = true) ∧
    m'.ctl.session = some { s with boundStream := some (s.boundStream.getD stream.streamId) } ∧
    m'.ctl.status = (if m.ctl.status = .connecting then .connected else m.ctl.status) ∧
    m'.ctl.generation = m.ctl.generation ∧ m'.ctl.running = m.ctl.running := by
  intro m'
  -- The surface is told first; marking connected comes after.
  obtain ⟨m₁, hm', hw₁, hs₁, hst₁, hg₁, hr₁⟩ : ∃ m₁ : Machine (W × List Call),
      m' = ((markConnected c.journaled).run m₁).2 ∧
      m₁.world.2 = m.world.2 ++ trackCalls s.boundStream stream ∧
      m₁.ctl.session = some { s with boundStream := some (s.boundStream.getD stream.streamId) } ∧
      m₁.ctl.status = m.ctl.status ∧ m₁.ctl.generation = m.ctl.generation ∧
        m₁.ctl.running = m.ctl.running := by
    simp only [m', onPeerEvent, StateT.run_bind, current_run, id_bind, pure_fst, pure_snd, hs]
    cases hb : s.boundStream with
    | none => exact ⟨_, rfl, by simp [trackCalls], by simp [hs], rfl, rfl, rfl⟩
    | some id =>
      -- A bound stream stays bound: the session is the one before.
      have hself : { s with boundStream := some id } = s := by
        cases s
        simp_all
      simp only [Option.getD_some, hself]
      split
      · rename_i hid
        simp only [StateT.run_bind, id_bind]
        exact ⟨_, rfl, by simp [trackCalls, beq_iff_eq.1 hid], hs, rfl, rfl, rfl⟩
      · rename_i hid
        exact ⟨_, rfl, by simpa [trackCalls] using hid, hs, rfl, rfl, rfl⟩
  obtain ⟨⟨calls, hw, hc⟩, -⟩ := markConnected_writes (P := fun x => !x.routine) c
    (fun x hx => by simp only [hx, Bool.not_true]) (.refl m₁)
  obtain ⟨hsession, hgeneration, hrunning, hstatus⟩ := markConnected_keeps c.journaled m₁
  rw [hm']
  exact ⟨⟨calls, by rw [hw, hw₁], Call.routine_of_filter_not hc⟩, hsession.trans hs₁,
    by rw [hstatus, hst₁], hgeneration.trans hg₁, hrunning.trans hr₁⟩

section Routine

variable (hP : ∀ x : Call, x.routine = true → P x = false)
include hP

/-! ## Handlers that may begin a generation -/

/-- A connect that is refused writes one log entry at most. -/
theorem connect_writes_of_refused {request : ConnectRequest} (ha : m.ctl.accepts request = false)
    (h : Writes P m₀ m xs) : Writes P m₀ ((connect c.journaled request).run m).2 xs := by
  cases hv : request.validated with
  | error field =>
    rw [connect_run_invalid _ hv]
    exact h.extend_nil [.record ⟨.error, (ViewerError.validation field).message⟩] (by simp)
      (by simp [hP (.record _) rfl]) ⟨rfl, rfl, rfl⟩
  | ok valid =>
    have hs : m.ctl.status = .connecting := by
      simpa [Controller.accepts, hv, Except.isOk, Except.toBool] using ha
    rw [connect_run_busy _ hv hs]
    exact h

/-- An accepted connect begins a session with no stream bound; before its transport starts it
writes only bookkeeping. -/
theorem connect_writes (hop : ∀ g url task, P (.spawn g (.opener url) task) = false)
    (hsrc : ∀ url, P (.setSource (.manifest url)) = false ∧
      P (.setSource (.segmentFeed url)) = false)
    (request : ConnectRequest)
    (h : Writes P m₀ m xs) : Writes P m₀ ((connect c.journaled request).run m).2 xs := by
  cases ha : m.ctl.accepts request
  · exact connect_writes_of_refused c hP ha h
  · cases hv : request.validated with
    | error field => simp [Controller.accepts, hv, Except.isOk, Except.toBool] at ha
    | ok valid =>
      have hs : m.ctl.status ≠ .connecting := by
        simpa [Controller.accepts, hv, Except.isOk, Except.toBool] using ha
      rw [connect_run_accepted _ hv hs]
      refine List.append_nil xs ▸ startTransport_writes c hP hop hsrc valid (h.trans
        ⟨⟨teardownCalls m.ctl ++ [.showOverlay (some connectingOverlay),
          .record ⟨.info, connectingMessage valid⟩], ?_, ?_⟩, ?_, ?_, ?_⟩)
      · simp [release_after_cancelAll, journaled_teardown]
      · exact Call.filter_eq_nil_of_routine hP
          (List.forall_mem_append.2 ⟨teardownCalls_routine _, by simp⟩)
      · simp
      · simp [Controller.begun]
      · intro s' hs'
        simp [Controller.begun, Controller.logged, Controller.publishNow] at hs'
        subst hs'
        exact .inr ⟨by simp, rfl⟩

/-- A reconnect that connects writes, before the connect, one log entry. -/
theorem onReconnectDue_writes (hop : ∀ g url task, P (.spawn g (.opener url) task) = false)
    (hsrc : ∀ url, P (.setSource (.manifest url)) = false ∧
      P (.setSource (.segmentFeed url)) = false)
    (h : Writes P m₀ m xs) :
    Writes P m₀ ((onReconnectDue c.journaled).run m).2 xs := by
  unfold onReconnectDue
  simp only [StateT.run_bind, current_run, id_bind, pure_fst, pure_snd]
  split
  · simp only [StateT.run_bind, current_run, id_bind, pure_fst, pure_snd]
    split
    · simp only [StateT.run_pure, pure_snd]
      exact updateTimers_writes _ h
    · simp only [StateT.run_bind, id_bind]
      split
      · exact log_writes c hP _ _ (connect_writes c hP hop hsrc _
          (log_writes c hP _ _ (updateTimers_writes _ h)))
      · simp only [StateT.run_pure, pure_snd]
        exact connect_writes c hP hop hsrc _ (log_writes c hP _ _ (updateTimers_writes _ h))
  · exact h

/-- A reconnect whose request would be refused writes only bookkeeping. -/
theorem onReconnectDue_writes_of_refused (ha : m.ctl.reconnectAccepted = false)
    (h : Writes P m₀ m xs) : Writes P m₀ ((onReconnectDue c.journaled).run m).2 xs := by
  unfold onReconnectDue
  simp only [StateT.run_bind, current_run, id_bind, pure_fst, pure_snd]
  split
  · rename_i request hpending
    simp only [StateT.run_bind, current_run, id_bind, pure_fst, pure_snd]
    split
    · simp only [StateT.run_pure, pure_snd]
      exact updateTimers_writes _ h
    · rename_i hs
      -- Still disconnected, so the pending request is the one refused.
      have hrefused : m.ctl.accepts request = false := by
        simpa [Controller.reconnectAccepted, hpending, by simpa using hs] using ha
      simp only [StateT.run_bind, id_bind]
      split
      · exact log_writes c hP _ _ (connect_writes_of_refused c hP
          (by simpa [Controller.accepts, Controller.logged] using hrefused)
          (log_writes c hP _ _ (updateTimers_writes _ h)))
      · simp only [StateT.run_pure, pure_snd]
        exact connect_writes_of_refused c hP
          (by simpa [Controller.accepts, Controller.logged] using hrefused)
          (log_writes c hP _ _ (updateTimers_writes _ h))
  · exact h

/-- Every command but a shutdown keeps the loop running, and makes no call `P` picks. -/
theorem handleCommand_writes (hop : ∀ g url task, P (.spawn g (.opener url) task) = false)
    (hsrc : ∀ url, P (.setSource (.manifest url)) = false ∧
      P (.setSource (.segmentFeed url)) = false)
    (cmd : Command) (hcmd : cmd ≠ .shutdown)
    (h : Writes P m₀ m xs) : Writes P m₀ ((handleCommand c.journaled cmd).run m).2 xs := by
  unfold handleCommand
  simp only [StateT.run_bind, current_run, id_bind, pure_fst, pure_snd]
  split
  · exact h
  · cases cmd with
    | toggle =>
      simp only [StateT.run_bind, current_run, id_bind, pure_fst, pure_snd]
      split
      · exact connect_writes c hP hop hsrc _ h
      · exact disconnect_writes c hP h
    | connect request => exact connect_writes c hP hop hsrc request h
    | disconnect => exact disconnect_writes c hP h
    | playback event => exact handlePlayback_writes c hP event h
    | shutdown => exact absurd rfl hcmd

/-- A command that begins no generation makes no call `P` picks, whatever `P` says of openers
and bindings: a connect it makes is refused. -/
theorem handleCommand_writes_of_stays (cmd : Command)
    (hb : Machine.beginsGeneration m.ctl (.command cmd) = false)
    (h : Writes P m₀ m xs) : Writes P m₀ ((handleCommand c.journaled cmd).run m).2 xs := by
  unfold handleCommand
  simp only [StateT.run_bind, current_run, id_bind, pure_fst, pure_snd]
  split
  · exact h
  · rename_i hr
    have hr : m.ctl.running = true := by simpa using hr
    cases cmd with
    | toggle =>
      simp only [StateT.run_bind, current_run, id_bind, pure_fst, pure_snd]
      split
      · rename_i hrs
        have ha : m.ctl.accepts m.ctl.config.connectRequest = false := by
          simpa [Machine.beginsGeneration, hr, hrs] using hb
        exact connect_writes_of_refused c hP ha h
      · rename_i hrs
        simp [Machine.beginsGeneration, hr, hrs] at hb
    | connect request =>
      have ha : m.ctl.accepts request = false := by simpa [Machine.beginsGeneration, hr] using hb
      exact connect_writes_of_refused c hP ha h
    | disconnect => simp [Machine.beginsGeneration, hr] at hb
    | playback event => exact handlePlayback_writes c hP event h
    | shutdown => simp [Machine.beginsGeneration, hr] at hb

/-- An event of the current generation other than a track makes what a text frame asks of the
live session's peer session, and no other call `P` picks, as long as the reconnect timer's event
and a signaling open make none (`hre`, `hopen`): the two handlers that may connect. -/
theorem dispatch_writes (kind : EventKind) (hk : ∀ stream, kind ≠ .peer (.track stream))
    (hre : kind = .reconnectDue → Writes P m₀ ((onReconnectDue c.journaled).run m).2 xs)
    (hopen : ∀ url result, kind = .signalingOpened url result →
      Writes P m₀ ((onSignalingOpened c.journaled url result).run m).2 xs)
    (h : Writes P m₀ m xs) :
    Writes P m₀ ((dispatch c.journaled kind).run m).2
      (xs ++ ((m.ctl.session.bind (·.peer)).bind kind.peerCall).toList.filter P) := by
  cases kind with
  | signalingOpened url result =>
    simpa [EventKind.peerCall, dispatch] using hopen url result rfl
  | link event => exact onLinkEvent_writes c hP event h
  | peer event =>
    simpa [EventKind.peerCall, dispatch] using
      onPeerEvent_writes c hP event (fun stream he => hk stream (by rw [he])) h
  | engine event => simpa [EventKind.peerCall, dispatch] using onEngineEvent_writes c hP event h
  | statsReport report => simpa [EventKind.peerCall, dispatch] using onStatsReport_writes report h
  | viewerCount result => simpa [EventKind.peerCall, dispatch] using onViewerCount_writes result h
  | reconnectDue => simpa [EventKind.peerCall, dispatch] using hre rfl

/-- An event of another generation at most gives up the link it brought. -/
theorem handleEvent_stale_writes {e : SessionEvent} (hg : e.generation ≠ m.ctl.generation)
    (h : Writes P m₀ m xs) : Writes P m₀ ((handleEvent c.journaled e).run m).2 xs := by
  rw [handleEvent_stale _ hg]
  have hw : ∃ calls, (discard c.journaled e.kind m.world).2 = m.world.2 ++ calls ∧
      ∀ x ∈ calls, x.routine = true := by
    unfold discard
    split
    · exact ⟨_, rfl, by simp⟩
    · exact ⟨[], by simp, by simp⟩
  obtain ⟨calls, hw, hr⟩ := hw
  exact h.extend_nil calls hw (Call.filter_eq_nil_of_routine hP hr) ⟨rfl, rfl, rfl⟩

end Routine

end Act

/-- Whether an input stops a running loop: the last holder letting go, or a shutdown. -/
def Input.stops : Input → Bool
  | .hangUp | .command .shutdown => true
  | _ => false

/-- The stream of the track an input delivers in generation `g`, if it delivers one. -/
def Input.track (g : Nat) : Input → Option RemoteStream
  | .deliver ⟨g', .peer (.track stream)⟩ => if g' = g then some stream else none
  | _ => none

theorem Input.stops_iff {input : Input} :
    input.stops = true ↔ input = .hangUp ∨ input = .command .shutdown := by
  unfold Input.stops
  split <;> simp_all

theorem Input.track_eq_some {g : Nat} {input : Input} {stream : RemoteStream} :
    input.track g = some stream ↔ input = .deliver ⟨g, .peer (.track stream)⟩ := by
  unfold Input.track
  split
  · rename_i g' stream'
    by_cases hg : g' = g <;> simp_all [eq_comm]
  · simp_all

/-- The call on the live session's peer session that a turn of the loop from `k` asks for: what
a frame delivered in the current generation asks, while the loop runs. -/
def Controller.peerCall (k : Controller) : Input → Option Call
  | .deliver e =>
    if k.running ∧ e.generation = k.generation then (k.session.bind (·.peer)).bind e.kind.peerCall
    else none
  | _ => none

namespace Machine

variable {W : Type} (c : Collaborators W) {P : Call → Bool}

/-- A turn that neither stops the loop nor delivers a track of the current generation makes what
its frame asks of the live session's peer session and no other call `P` picks, for a kind `P` of
call that leaves out routine calls, openers, bindings of the surface and creations of a peer
session. -/
theorem step_writes (hP : ∀ x : Call, x.routine = true → P x = false)
    (hop : ∀ g url task, P (.spawn g (.opener url) task) = false)
    (hsrc : ∀ url, P (.setSource (.manifest url)) = false ∧
      P (.setSource (.segmentFeed url)) = false)
    (hpeer : ∀ servers answer, P (.createPeer servers answer) = false)
    (m : Machine (W × List Call)) {input : Input} (hs : input.stops = false)
    (ht : input.track m.ctl.generation = none) :
    Writes P m (m.step c.journaled input) ((m.ctl.peerCall input).toList.filter P) := by
  cases input with
  | command cmd =>
    simpa [Controller.peerCall, step] using Act.handleCommand_writes c hP hop hsrc cmd
      (by rintro rfl; simp [Input.stops] at hs) (.refl m)
  | deliver e =>
    dsimp only [step]
    by_cases hr : m.ctl.running
    · rw [if_pos hr]
      by_cases hg : e.generation = m.ctl.generation
      · rw [Act.handleEvent_current _ hg]
        have hk : ∀ stream, e.kind ≠ .peer (.track stream) := by
          intro stream he
          obtain ⟨g, kind⟩ := e
          simp_all [Input.track]
        simpa [Controller.peerCall, hr, hg] using
          Act.dispatch_writes c hP e.kind hk
            (fun _ => Act.onReconnectDue_writes c hP hop hsrc (.refl m))
            (fun url result _ => Act.onSignalingOpened_writes c hP hpeer url result (.refl m))
            (.refl m)
      · simpa [Controller.peerCall, hr, hg] using Act.handleEvent_stale_writes c hP hg (.refl m)
    · rw [if_neg hr]
      simpa [Controller.peerCall, hr] using Writes.refl (P := P) m
  | hangUp => simp [Input.stops] at hs

/-- A turn that stays in its generation and delivers no track of it makes what its frame asks of
the live session's peer session and no other call `P` picks, for any kind `P` that leaves out
routine calls, and creations of a peer session too when the turn delivers a signaling open of the
current generation: nothing else connects or binds. -/
theorem step_writes_of_stays (hP : ∀ x : Call, x.routine = true → P x = false)
    (m : Machine (W × List Call)) {input : Input} (hb : beginsGeneration m.ctl input = false)
    (ht : input.track m.ctl.generation = none)
    (ho : ∀ e, input = .deliver e → e.generation = m.ctl.generation → e.kind.isOpened = true →
      ∀ servers answer, P (.createPeer servers answer) = false) :
    Writes P m (m.step c.journaled input) ((m.ctl.peerCall input).toList.filter P) := by
  cases input with
  | command cmd =>
    simpa [Controller.peerCall, step] using
      Act.handleCommand_writes_of_stays c hP cmd hb (.refl m)
  | deliver e =>
    dsimp only [step]
    by_cases hr : m.ctl.running
    · rw [if_pos hr]
      by_cases hg : e.generation = m.ctl.generation
      · rw [Act.handleEvent_current _ hg]
        have hk : ∀ stream, e.kind ≠ .peer (.track stream) := by
          intro stream he
          obtain ⟨g, kind⟩ := e
          simp_all [Input.track]
        -- The reconnect timer's event would begin a generation if its connect were accepted.
        have hre : e.kind = .reconnectDue → m.ctl.reconnectAccepted = false := by
          intro he
          simpa [beginsGeneration, hr, hg, he, EventKind.isReconnectDue] using hb
        simpa [Controller.peerCall, hr, hg] using
          Act.dispatch_writes c hP e.kind hk
            (fun he => Act.onReconnectDue_writes_of_refused c hP (hre he) (.refl m))
            (fun url result he => Act.onSignalingOpened_writes c hP
              (ho e rfl hg (by simp [he, EventKind.isOpened])) url result (.refl m)) (.refl m)
      · simpa [Controller.peerCall, hr, hg] using Act.handleEvent_stale_writes c hP hg (.refl m)
    · rw [if_neg hr]
      simpa [Controller.peerCall, hr] using Writes.refl (P := P) m
  | hangUp =>
    have hr : m.ctl.running = false := by simpa [beginsGeneration] using hb
    simpa [step, hr, Controller.peerCall] using Writes.refl (P := P) m

/-- What a run writes of the calls `P` picks is `L m inputs`, when every turn writes of them what
its share of `L` says. -/
theorem run_filter (L : Machine (W × List Call) → List Input → List Call)
    (hnil : ∀ m, L m [] = [])
    (hcons : ∀ m input inputs, ∃ calls, (m.step c.journaled input).world.2 = m.world.2 ++ calls ∧
      L m (input :: inputs) = calls.filter P ++ L (m.step c.journaled input) inputs)
    (m : Machine (W × List Call)) (inputs : List Input) :
    ∃ calls, (m.run c.journaled inputs).world.2 = m.world.2 ++ calls ∧
      calls.filter P = L m inputs := by
  -- One turn at a time: what a turn writes comes before what the rest of the run writes.
  induction inputs generalizing m with
  | nil => exact ⟨[], by simp, (hnil m).symm⟩
  | cons input inputs ih =>
    obtain ⟨calls₁, hw₁, hL⟩ := hcons m input inputs
    obtain ⟨calls₂, hw₂, hc₂⟩ := ih (m.step c.journaled input)
    exact ⟨calls₁ ++ calls₂, by rw [run_cons, hw₂, hw₁, List.append_assoc],
      by rw [List.filter_append, hc₂, hL]⟩

/-- A track of the current generation, delivered to a running loop, goes to the peer handler. -/
theorem step_track {m : Machine W} (hr : m.ctl.running = true) (stream : RemoteStream) :
    m.step c (.deliver ⟨m.ctl.generation, .peer (.track stream)⟩) =
      ((Act.onPeerEvent c (.track stream)).run m).2 := by
  simp only [step, hr, if_true]
  rw [Act.handleEvent_current _ rfl]
  rfl

/-- Without a live session a track is dropped. -/
theorem onPeerEvent_track_none {m : Machine W} (hs : m.ctl.session = none)
    (stream : RemoteStream) : ((Act.onPeerEvent c (.track stream)).run m).2 = m := by
  unfold Act.onPeerEvent
  simp only [StateT.run_bind, Act.current_run, Act.id_bind, Act.pure_fst, Act.pure_snd, hs]
  rfl

/-- A live session belongs to a running loop: only a stop ends the loop, and it releases the
session. -/
theorem Reachable.running_of_session {m : Machine (W × List Call)} (h : Reachable c.journaled m)
    {s : ActiveSession} (hs : m.ctl.session = some s) : m.ctl.running = true := by
  induction h generalizing s with
  | start config world => simp [Machine.start, Controller.start] at hs
  | step input hm ih =>
    rename_i m
    cases hr : m.ctl.running
    · rw [step_stopped c.journaled hr] at hs
      exact absurd (ih hs) (by simp [hr])
    cases hst : input.stops
    · cases ht : input.track m.ctl.generation with
      | none =>
        -- Every other turn keeps the loop as it was.
        have hw := step_writes (P := fun _ => false) c (fun _ _ => rfl) (fun _ _ _ => rfl)
          (fun _ => ⟨rfl, rfl⟩) (fun _ _ => rfl) m hst ht
        exact hw.running.trans hr
      | some stream =>
        rw [Input.track_eq_some.1 ht, step_track c.journaled hr] at hs ⊢
        cases hs₀ : m.ctl.session with
        | none => rw [onPeerEvent_track_none c.journaled hs₀]; exact hr
        | some s₀ => exact (Act.onPeerEvent_track c stream hs₀).2.2.2.2.trans hr
    · -- A stop releases the session.
      rw [step_ending c.journaled hr (Input.stops_iff.1 hst), Act.stop_ctl] at hs
      simp at hs

end Machine

end LiveViewer
