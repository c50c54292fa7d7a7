import LiveViewer.Proofs.Controller.Generation
import Mathlib.Tactic.Simps.Basic

/-!
# The journal of collaborator calls

`Collaborators.journaled c` is `c` with a journal beside the world: every call the controller
makes on a collaborator is also written down, in order, as a `Call`. A theorem about the
controller holds for every choice of collaborators, so it holds for the journaled ones too, and
there it can speak about the calls themselves: which were made and in which order.

The first use is the tagging of producers. Starting a producer hands it the current generation,
and the events it delivers carry that generation. `Machine.Tagged m m'` says that every producer
started between `m` and `m'` got the generation `m'` is in, and `step_tagged` shows this of
every turn of the loop: within a turn nothing is started before a new generation begins. A
connect stops the timers and releases the old session, which starts nothing, before it moves on;
every other handler keeps the generation. The events of a producer therefore pass the check of
the loop exactly as long as no later turn begins a generation.
-/

namespace LiveViewer

/-- A call the controller makes on one of its collaborators, with what it answered where the
answer matters later. -/
inductive Call where
  | showOverlay (overlay : Option String)
  | setSource (source : MediaSource Url)
  | addTrack (stream : RemoteStream)
  | clearSource
  | sendFrame (link : Nat) (frame : String)
  | dropSender (link : Nat)
  | dropLink (link : Nat)
  | createPeer (servers : List IceServer) (answer : Except TransportError Nat)
  | createOffer (peer : Nat) (answer : Except TransportError String)
  | applyAnswer (peer : Nat) (sdp : String)
  | addCandidate (peer : Nat) (candidate : RemoteCandidate)
  | closePeer (peer : Nat)
  | startEngine (manifest : Url) (answer : Except TransportError Nat)
  | stopEngine (engine : Nat)
  | spawn (generation : Nat) (producer : Producer) (task : Nat)
  | abort (task : Nat)
  | record (entry : LogEntry)

/-- The generation a call starts a producer in, if it starts one. -/
@[simp] def Call.startedIn : Call → Option Nat
  | .spawn generation _ _ => some generation
  | _ => none

namespace Collaborators

variable {W : Type}

/-- The collaborators `c`, with every call also written to a journal beside the world. -/
@[simps]
def journaled (c : Collaborators W) : Collaborators (W × List Call) where
  nativeHls w := c.nativeHls w.1
  showOverlay overlay w := (c.showOverlay overlay w.1, w.2 ++ [.showOverlay overlay])
  setSource source w := (c.setSource source w.1, w.2 ++ [.setSource source])
  addTrack stream w := (c.addTrack stream w.1, w.2 ++ [.addTrack stream])
  clearSource w := (c.clearSource w.1, w.2 ++ [.clearSource])
  sendFrame link frame w := (c.sendFrame link frame w.1, w.2 ++ [.sendFrame link frame])
  dropSender link w := (c.dropSender link w.1, w.2 ++ [.dropSender link])
  dropLink link w := (c.dropLink link w.1, w.2 ++ [.dropLink link])
  createPeer servers w :=
    ((c.createPeer servers w.1).1,
      ((c.createPeer servers w.1).2, w.2 ++ [.createPeer servers (c.createPeer servers w.1).1]))
  createOffer peer w :=
    ((c.createOffer peer w.1).1,
      ((c.createOffer peer w.1).2, w.2 ++ [.createOffer peer (c.createOffer peer w.1).1]))
  applyAnswer peer sdp w :=
    ((c.applyAnswer peer sdp w.1).1, ((c.applyAnswer peer sdp w.1).2, w.2 ++ [.applyAnswer peer sdp]))
  addCandidate peer candidate w :=
    ((c.addCandidate peer candidate w.1).1,
      ((c.addCandidate peer candidate w.1).2, w.2 ++ [.addCandidate peer candidate]))
  closePeer peer w := (c.closePeer peer w.1, w.2 ++ [.closePeer peer])
  startEngine := c.startEngine.map fun start manifest w =>
    ((start manifest w.1).1, ((start manifest w.1).2, w.2 ++ [.startEngine manifest (start manifest w.1).1]))
  stopEngine engine w := (c.stopEngine engine w.1, w.2 ++ [.stopEngine engine])
  streamInfo := c.streamInfo
  spawn generation producer w :=
    ((c.spawn generation producer w.1).1,
      ((c.spawn generation producer w.1).2,
        w.2 ++ [.spawn generation producer (c.spawn generation producer w.1).1]))
  abort task w := (c.abort task w.1, w.2 ++ [.abort task])
  record entry w := (c.record entry w.1, w.2 ++ [.record entry])

/-- The calls that stopping the timers `t` makes. -/
def timerAborts (t : Timers) : List Call :=
  (t.stats.toList ++ t.viewerCount.toList ++ (t.reconnect.map Prod.fst).toList).map .abort

/-- The calls that releasing session `s` makes, `stats` being the stats timer: one abort for each
of its producers, then one for the stats timer if it runs, one stop of its segment engine if it
has one, one close of its peer session if it has one, one drop of the sending end of its
signaling link if it still holds it, and one unbinding of the surface. -/
def releaseCalls (s : ActiveSession) (stats : Option Nat) : List Call :=
  s.tasks.map .abort ++ stats.toList.map .abort ++
    (match s.playback with
      | some (.engine e) => [.stopEngine e]
      | _ => []) ++
    s.peer.toList.map .closePeer ++
    (match s.signaling with
      | some (link, channel) => if channel.holding then [.dropSender link] else []
      | none => []) ++
    [.clearSource]

theorem journaled_stopTimers (c : Collaborators W) (t : Timers) (w : W × List Call) :
    c.journaled.stopTimers t w = (c.stopTimers t w.1, w.2 ++ timerAborts t) := by
  obtain ⟨stats, viewer, reconnect⟩ := t
  cases stats <;> cases viewer <;> cases reconnect <;> simp [stopTimers, timerAborts]

theorem journaled_abortAll (c : Collaborators W) (tasks : List Nat) (w : W × List Call) :
    tasks.foldl (fun w t => c.journaled.abort t w) w =
      (tasks.foldl (fun w t => c.abort t w) w.1, w.2 ++ tasks.map .abort) := by
  induction tasks generalizing w with
  | nil => simp
  | cons t ts ih =>
    rw [List.foldl_cons, ih]
    simp

theorem journaled_release (c : Collaborators W) (s : ActiveSession) (stats : Option Nat)
    (w : W × List Call) :
    c.journaled.release s stats w = (c.release s stats w.1, w.2 ++ releaseCalls s stats) := by
  unfold release releaseCalls
  simp only [journaled_abortAll]
  cases stats <;> (repeat' split) <;> simp_all

/-- The calls of a teardown of `k`: its timers stopped, then its live session released. -/
def teardownCalls (k : Controller) : List Call :=
  timerAborts k.timers ++
    match k.session with
    | none => []
    | some s => releaseCalls s none

theorem journaled_teardown (c : Collaborators W) (k : Controller) (w : W × List Call) :
    c.journaled.teardown k w = (c.teardown k w.1, w.2 ++ teardownCalls k) := by
  unfold teardown teardownCalls
  cases k.session <;> simp [journaled_stopTimers, journaled_release]

/-- Stopping timers starts nothing. -/
theorem timerAborts_quiet (t : Timers) : (timerAborts t).filterMap Call.startedIn = [] := by
  simp [timerAborts, List.filterMap_map, Function.comp_def, Call.startedIn]

/-- Releasing a session starts nothing. -/
theorem releaseCalls_quiet (s : ActiveSession) (stats : Option Nat) :
    (releaseCalls s stats).filterMap Call.startedIn = [] := by
  unfold releaseCalls
  simp only [List.filterMap_append, List.filterMap_map, Function.comp_def, Call.startedIn]
  (repeat' split) <;> simp

theorem teardownCalls_quiet (k : Controller) : (teardownCalls k).filterMap Call.startedIn = [] := by
  unfold teardownCalls
  split <;> simp [timerAborts_quiet, releaseCalls_quiet]

end Collaborators

namespace Machine

variable {W : Type}

/-- From `m` to `m'` the journal only grew, and every producer started in between was started
in the generation `m'` is in. -/
def Tagged (m m' : Machine (W × List Call)) : Prop :=
  ∃ calls, m'.world.2 = m.world.2 ++ calls ∧
    ∀ g ∈ calls.filterMap Call.startedIn, g = m'.ctl.generation

namespace Tagged

theorem refl (m : Machine (W × List Call)) : Tagged m m :=
  ⟨[], by simp, by simp⟩

/-- Carrying on in the same generation keeps the tags right. -/
theorem trans {m₁ m₂ m₃ : Machine (W × List Call)} (h₁ : Tagged m₁ m₂) (h₂ : Tagged m₂ m₃)
    (hg : m₃.ctl.generation = m₂.ctl.generation) : Tagged m₁ m₃ := by
  obtain ⟨calls₁, hw₁, hc₁⟩ := h₁
  obtain ⟨calls₂, hw₂, hc₂⟩ := h₂
  refine ⟨calls₁ ++ calls₂, by rw [hw₂, hw₁, List.append_assoc], ?_⟩
  intro g hg'
  rw [List.filterMap_append, List.mem_append] at hg'
  rcases hg' with h | h
  · rw [hg]
    exact hc₁ g h
  · exact hc₂ g h

/-- A step that keeps the generation and writes `calls` keeps the tags right, as long as `calls`
start producers only in that generation. -/
theorem extend {m₀ m m' : Machine (W × List Call)} (h : Tagged m₀ m) (calls : List Call)
    (hg : m'.ctl.generation = m.ctl.generation) (hw : m'.world.2 = m.world.2 ++ calls)
    (hc : ∀ g ∈ calls.filterMap Call.startedIn, g = m'.ctl.generation) : Tagged m₀ m' :=
  h.trans ⟨calls, hw, hc⟩ hg

/-- Calls that start nothing are tagged right whatever the generation becomes. -/
theorem of_quiet {m m' : Machine (W × List Call)} (calls : List Call)
    (hw : m'.world.2 = m.world.2 ++ calls) (hq : calls.filterMap Call.startedIn = []) :
    Tagged m m' :=
  ⟨calls, hw, by simp [hq]⟩

/-- A change of the world that only writes calls starting nothing is tagged right. -/
theorem of_world {m m' : Machine (W × List Call)}
    (h : ∃ calls, m'.world.2 = m.world.2 ++ calls ∧ calls.filterMap Call.startedIn = []) :
    Tagged m m' := by
  obtain ⟨calls, hw, hq⟩ := h
  exact .of_quiet calls hw hq

/-- Calls that start nothing, made before a run that tags right, change nothing: whatever
generation the run ends in, they started no producer in another. -/
theorem quiet_trans {m₁ m₂ m₃ : Machine (W × List Call)} (calls : List Call)
    (hw : m₂.world.2 = m₁.world.2 ++ calls) (hq : calls.filterMap Call.startedIn = [])
    (h : Tagged m₂ m₃) : Tagged m₁ m₃ := by
  obtain ⟨calls₂, hw₂, hc₂⟩ := h
  refine ⟨calls ++ calls₂, by rw [hw₂, hw, List.append_assoc], ?_⟩
  rw [List.filterMap_append, hq, List.nil_append]
  exact hc₂

end Tagged

end Machine

namespace Act

open Machine Collaborators

variable {W : Type} (c : Collaborators W) {m₀ m : Machine (W × List Call)}

/-! ## The primitive steps

Each lemma carries `Tagged m₀ m` over one step taken from `m`, so that a handler's proof applies
them from its last step back to its first. -/

theorem update_tagged (f : Controller → Controller) (hf : ∀ k, (f k).generation = k.generation)
    (h : Tagged m₀ m) : Tagged m₀ ((update f : Act (W × List Call) Unit).run m).2 :=
  h.extend [] (hf _) (by simp) (by simp)

theorem updateSession_tagged (f : ActiveSession → ActiveSession) (h : Tagged m₀ m) :
    Tagged m₀ ((updateSession f : Act (W × List Call) Unit).run m).2 :=
  h.extend [] rfl (by simp) (by simp)

theorem updateTimers_tagged (f : Timers → Timers) (h : Tagged m₀ m) :
    Tagged m₀ ((updateTimers f : Act (W × List Call) Unit).run m).2 :=
  h.extend [] rfl (by simp) (by simp)

theorem publish_tagged (h : Tagged m₀ m) :
    Tagged m₀ ((publish : Act (W × List Call) Unit).run m).2 :=
  h.extend [] rfl (by simp) (by simp)

/-- A call on the world that starts no producer. -/
theorem touch_tagged (f : W × List Call → W × List Call)
    (hf : ∀ w, ∃ calls, (f w).2 = w.2 ++ calls ∧ calls.filterMap Call.startedIn = [])
    (h : Tagged m₀ m) : Tagged m₀ ((touch f).run m).2 := by
  obtain ⟨calls, hw, hq⟩ := hf m.world
  exact h.trans (.of_quiet calls hw hq) rfl

/-- A question to the world that starts no producer. -/
theorem ask_tagged {α : Type} (f : W × List Call → α × (W × List Call))
    (hf : ∀ w, ∃ calls, (f w).2.2 = w.2 ++ calls ∧ calls.filterMap Call.startedIn = [])
    (h : Tagged m₀ m) : Tagged m₀ ((ask f).run m).2 := by
  obtain ⟨calls, hw, hq⟩ := hf m.world
  exact h.trans (.of_quiet calls hw hq) rfl

theorem log_tagged (level : Level) (message : String) (h : Tagged m₀ m) :
    Tagged m₀ ((log c.journaled level message).run m).2 :=
  h.extend [.record ⟨level, message⟩] rfl (by simp) (by simp)

theorem setOverlay_tagged (overlay : Option String) (h : Tagged m₀ m) :
    Tagged m₀ ((setOverlay c.journaled overlay).run m).2 :=
  h.extend [.showOverlay overlay] rfl (by simp) (by simp)

/-- A producer is started in the current generation. -/
theorem spawn_tagged (p : Producer) (h : Tagged m₀ m) :
    Tagged m₀ ((spawn c.journaled p).run m).2 :=
  h.extend [.spawn m.ctl.generation p (c.spawn m.ctl.generation p m.world.1).1] rfl (by simp)
    (by simp)

/-! ## Teardown starts nothing -/

theorem endSession_tagged (h : Tagged m₀ m) : Tagged m₀ ((endSession c.journaled).run m).2 :=
  h.trans
    (.of_quiet (teardownCalls m.ctl ++ [.showOverlay (some disconnectedOverlay)])
      (by rw [endSession_world]; simp [journaled_teardown])
      (by simp [teardownCalls_quiet]))
    (by rw [endSession_ctl]; simp)

theorem failSetup_tagged (e : ViewerError) (h : Tagged m₀ m) :
    Tagged m₀ ((failSetup c.journaled e).run m).2 :=
  h.trans
    (.of_quiet
      ([.record ⟨.error, e.message⟩] ++ teardownCalls m.ctl ++
        [.showOverlay (some disconnectedOverlay)])
      (by rw [failSetup_world]; simp [journaled_teardown])
      (by rw [List.filterMap_append, List.filterMap_append, teardownCalls_quiet]; rfl))
    (by rw [failSetup_ctl]; simp)

/-! ## Handlers that keep the generation -/

theorem startViewerCountTimer_tagged (h : Tagged m₀ m) :
    Tagged m₀ ((startViewerCountTimer c.journaled).run m).2 := by
  unfold startViewerCountTimer
  simp only [StateT.run_bind, current_run, id_bind, pure_fst, pure_snd]
  split
  · exact h
  · split
    · simp only [StateT.run_bind, id_bind]
      exact updateTimers_tagged _ (spawn_tagged c _ h)
    · exact h

theorem startStatsSampler_tagged (h : Tagged m₀ m) :
    Tagged m₀ ((startStatsSampler c.journaled).run m).2 := by
  unfold startStatsSampler
  simp only [StateT.run_bind, current_run, id_bind, pure_fst, pure_snd]
  split
  · exact h
  · split
    · simp only [StateT.run_bind, id_bind]
      exact updateTimers_tagged _ (spawn_tagged c _ (update_tagged _ (fun _ => rfl) h))
    · exact h

theorem markConnected_tagged (h : Tagged m₀ m) :
    Tagged m₀ ((markConnected c.journaled).run m).2 := by
  by_cases hs : m.ctl.status = .connecting
  · simp only [markConnected, StateT.run_bind, current_run, hs, id_bind, pure_fst, pure_snd,
      bne_self_eq_false, Bool.false_eq_true, if_false]
    exact publish_tagged (startViewerCountTimer_tagged c (log_tagged c _ _
      (setOverlay_tagged c _ (update_tagged _ (fun _ => rfl) h))))
  · rw [markConnected_of_ne _ hs]
    exact h

theorem openSignaling_tagged (request : ConnectRequest) (h : Tagged m₀ m) :
    Tagged m₀ ((openSignaling c.journaled request).run m).2 := by
  unfold openSignaling
  split
  · exact failSetup_tagged c _ h
  · simp only [StateT.run_bind, id_bind]
    exact updateSession_tagged _ (spawn_tagged c _ h)

theorem attachSegmented_tagged (manifest : Url) (h : Tagged m₀ m) :
    Tagged m₀ ((attachSegmented c.journaled manifest).run m).2 := by
  unfold attachSegmented
  simp only [StateT.run_bind, id_bind, journaled_startEngine]
  split
  · simp only [StateT.run_bind, id_bind, StateT.run_pure, pure_snd]
    exact touch_tagged _ (by simp) h
  · -- Without a native player the engine factory is asked, through the journal.
    cases c.startEngine with
    | none => exact h
    | some start =>
      simp only [Option.map_some, StateT.run_bind, id_bind]
      split <;> simp only [StateT.run_pure, pure_snd] <;>
        exact ask_tagged _ (by simp) (touch_tagged _ (by simp) h)

theorem startSegmented_tagged (request : ConnectRequest) (h : Tagged m₀ m) :
    Tagged m₀ ((startSegmented c.journaled request).run m).2 := by
  unfold startSegmented
  cases manifestUrl request.serverEndpoint request.streamKey with
  | error e => exact failSetup_tagged c _ h
  | ok manifest =>
    simp only [StateT.run_bind, id_bind]
    have h₁ := attachSegmented_tagged c manifest h
    split
    · exact failSetup_tagged c _ h₁
    · simp only [StateT.run_bind, id_bind]
      split
      · exact markConnected_tagged c (updateSession_tagged _ (spawn_tagged c _ h₁))
      · exact updateSession_tagged _ (spawn_tagged c _ h₁)

theorem startTransport_tagged (request : ConnectRequest) (h : Tagged m₀ m) :
    Tagged m₀ ((startTransport c.journaled request).run m).2 := by
  unfold startTransport
  split
  · exact openSignaling_tagged c request h
  · exact startSegmented_tagged c request h

theorem sendSignal_tagged (msg : SignalMessage) (h : Tagged m₀ m) :
    Tagged m₀ ((sendSignal c.journaled msg).run m).2 := by
  unfold sendSignal
  simp only [StateT.run_bind, current_run, id_bind, pure_fst, pure_snd]
  split
  · split
    · exact touch_tagged _ (by simp) h
    · exact h
  · exact h

theorem startNegotiation_tagged (h : Tagged m₀ m) :
    Tagged m₀ ((startNegotiation c.journaled).run m).2 := by
  unfold startNegotiation
  simp only [StateT.run_bind, current_run, id_bind, pure_fst, pure_snd]
  split
  · simp only [StateT.run_pure, pure_snd]
    exact ask_tagged _ (by simp) h
  · simp only [StateT.run_bind, current_run, id_bind, pure_fst, pure_snd]
    split
    · -- The session went away: the new peer session and its pump are given up at once.
      simp only [StateT.run_bind, id_bind, StateT.run_pure, pure_snd]
      exact touch_tagged _ (by simp) (touch_tagged _ (by simp)
        (spawn_tagged c _ (ask_tagged _ (by simp) h)))
    · simp only [StateT.run_bind, id_bind]
      split
      · simp only [StateT.run_pure, pure_snd]
        exact ask_tagged _ (by simp) (updateSession_tagged _
          (spawn_tagged c _ (ask_tagged _ (by simp) h)))
      · simp only [StateT.run_bind, id_bind, StateT.run_pure, pure_snd]
        exact sendSignal_tagged c _ (ask_tagged _ (by simp) (updateSession_tagged _
          (spawn_tagged c _ (ask_tagged _ (by simp) h))))

theorem onSignalingOpened_tagged (url : Url) (result : Except SignalingError Nat)
    (h : Tagged m₀ m) : Tagged m₀ ((onSignalingOpened c.journaled url result).run m).2 := by
  unfold onSignalingOpened
  simp only [StateT.run_bind, current_run, id_bind, pure_fst, pure_snd]
  split
  · split
    · simp only [StateT.run_bind, id_bind, StateT.run_pure, pure_snd]
      exact touch_tagged _ (by simp) h
    · exact h
  · split
    · simp only [StateT.run_bind, id_bind]
      exact endSession_tagged c (log_tagged c _ _ h)
    · simp only [StateT.run_bind, current_run, id_bind, pure_fst, pure_snd]
      split
      · -- With no session left the sending end is dropped at once.
        simp only [StateT.run_bind, id_bind]
        split
        · exact failSetup_tagged c _ (startNegotiation_tagged c (updateSession_tagged _
            (touch_tagged _ (by simp) (spawn_tagged c _ (log_tagged c _ _ h)))))
        · exact startNegotiation_tagged c (updateSession_tagged _
            (touch_tagged _ (by simp) (spawn_tagged c _ (log_tagged c _ _ h))))
      · simp only [StateT.run_bind, id_bind]
        split
        · exact failSetup_tagged c _ (startNegotiation_tagged c (updateSession_tagged _
            (spawn_tagged c _ (log_tagged c _ _ h))))
        · exact startNegotiation_tagged c (updateSession_tagged _
            (spawn_tagged c _ (log_tagged c _ _ h)))

theorem dispatchSignal_tagged (msg : SignalMessage) (h : Tagged m₀ m) :
    Tagged m₀ ((dispatchSignal c.journaled msg).run m).2 := by
  unfold dispatchSignal
  cases msg with
  | answer sdp =>
    simp only [StateT.run_bind, current_run, id_bind, pure_fst, pure_snd]
    split
    · simp only [StateT.run_bind, id_bind]
      split
      · simp only [StateT.run_pure, pure_snd]
        exact ask_tagged _ (by simp) h
      · simp only [StateT.run_bind, current_run, id_bind, pure_fst, pure_snd]
        split
        · exact failSetup_tagged c _ (ask_tagged _ (by simp) h)
        · exact log_tagged c _ _ (ask_tagged _ (by simp) h)
    · exact h
  | iceCandidate candidate sdpMid sdpMLineIndex =>
    simp only [StateT.run_bind, current_run, id_bind, pure_fst, pure_snd]
    split
    · simp only [StateT.run_bind, id_bind]
      split
      · simp only [StateT.run_pure, pure_snd]
        exact ask_tagged _ (by simp) h
      · exact log_tagged c _ _ (ask_tagged _ (by simp) h)
    · exact h
  | error message => exact log_tagged c _ _ h
  | offer => exact log_tagged c _ _ h

theorem onSignalingClosed_tagged (h : Tagged m₀ m) :
    Tagged m₀ ((onSignalingClosed c.journaled).run m).2 := by
  unfold onSignalingClosed
  simp only [StateT.run_bind, current_run, id_bind, pure_fst, pure_snd]
  split
  · split
    · simp only [StateT.run_bind, current_run, id_bind, pure_fst, pure_snd]
      split
      · exact endSession_tagged c (log_tagged c _ _ (updateSession_tagged _
          (touch_tagged _ (by simp) h)))
      · exact log_tagged c _ _ (updateSession_tagged _ (touch_tagged _ (by simp) h))
    · simp only [StateT.run_bind, current_run, id_bind, pure_fst, pure_snd]
      split
      · exact endSession_tagged c (log_tagged c _ _ (updateSession_tagged _ h))
      · exact log_tagged c _ _ (updateSession_tagged _ h)
  · simp only [StateT.run_bind, current_run, id_bind, pure_fst, pure_snd]
    split
    · exact endSession_tagged c (log_tagged c _ _ h)
    · exact log_tagged c _ _ h

theorem onLinkEvent_tagged (e : LinkEvent) (h : Tagged m₀ m) :
    Tagged m₀ ((onLinkEvent c.journaled e).run m).2 := by
  unfold onLinkEvent
  cases e with
  | text raw =>
    dsimp only
    split
    · exact dispatchSignal_tagged c _ h
    · exact log_tagged c _ _ h
  | binary length => exact log_tagged c _ _ h
  | error message => exact log_tagged c _ _ h
  | closed => exact onSignalingClosed_tagged c h

theorem scheduleReconnect_tagged (request : ConnectRequest) (delayMs : Nat) (h : Tagged m₀ m) :
    Tagged m₀ ((scheduleReconnect c.journaled request delayMs).run m).2 := by
  unfold scheduleReconnect
  simp only [StateT.run_bind, current_run, id_bind, pure_fst, pure_snd]
  split
  · simp only [StateT.run_bind, id_bind]
    exact updateTimers_tagged _ (touch_tagged _ (by simp) (spawn_tagged c _ h))
  · exact updateTimers_tagged _ (spawn_tagged c _ h)

theorem transportFailure_tagged (state : PeerState) (h : Tagged m₀ m) :
    Tagged m₀ ((transportFailure c.journaled state).run m).2 := by
  unfold transportFailure
  simp only [StateT.run_bind, current_run, id_bind, pure_fst, pure_snd]
  split
  · simp only [StateT.run_bind, current_run, id_bind, pure_fst, pure_snd]
    exact scheduleReconnect_tagged c _ _ (log_tagged c _ _ (endSession_tagged c (log_tagged c _ _ h)))
  · exact endSession_tagged c (log_tagged c _ _ h)

theorem onPeerState_tagged (state : PeerState) (h : Tagged m₀ m) :
    Tagged m₀ ((onPeerState c.journaled state).run m).2 := by
  unfold onPeerState
  cases state with
  | connected =>
    simp only [StateT.run_bind, id_bind]
    exact startStatsSampler_tagged c (markConnected_tagged c h)
  | failed | disconnected =>
    simp only [StateT.run_bind, current_run, id_bind, pure_fst, pure_snd]
    split
    · exact transportFailure_tagged c _ h
    · exact failSetup_tagged c _ h
    · exact h
  | new | connecting | closed => exact h

theorem onPeerEvent_tagged (e : PeerEvent) (h : Tagged m₀ m) :
    Tagged m₀ ((onPeerEvent c.journaled e).run m).2 := by
  unfold onPeerEvent
  cases e with
  | track stream =>
    simp only [StateT.run_bind, current_run, id_bind, pure_fst, pure_snd]
    split
    · split
      · simp only [StateT.run_bind, id_bind]
        exact markConnected_tagged c (touch_tagged _ (by simp) (updateSession_tagged _ h))
      · split
        · simp only [StateT.run_bind, id_bind]
          exact markConnected_tagged c (touch_tagged _ (by simp) h)
        · exact markConnected_tagged c h
    · exact h
  | localCandidate candidate sdpMid sdpMLineIndex => exact sendSignal_tagged c _ h
  | stateChanged state => exact onPeerState_tagged c state h

theorem onEngineEvent_tagged (e : EngineEvent) (h : Tagged m₀ m) :
    Tagged m₀ ((onEngineEvent c.journaled e).run m).2 := by
  unfold onEngineEvent
  cases e with
  | manifestParsed => exact markConnected_tagged c h
  | error message =>
    simp only [StateT.run_bind, current_run, id_bind, pure_fst, pure_snd]
    split
    · exact failSetup_tagged c _ h
    · exact log_tagged c _ _ h
  | ended => exact log_tagged c _ _ h

theorem onStatsReport_tagged (report : Option InboundReport) (h : Tagged m₀ m) :
    Tagged m₀ ((onStatsReport report : Act (W × List Call) Unit).run m).2 := by
  -- A stats reading only changes the controller, and not its generation.
  have hw : ((onStatsReport report : Act (W × List Call) Unit).run m).2.world = m.world := by
    cases hs : m.ctl.status <;> cases report <;> simp [onStatsReport, hs]
  refine h.extend [] ?_ (by rw [hw, List.append_nil]) (by simp)
  rw [onStatsReport_ctl]
  split <;> rfl

theorem onViewerCount_tagged (result : Except String UInt32) (h : Tagged m₀ m) :
    Tagged m₀ ((onViewerCount result : Act (W × List Call) Unit).run m).2 := by
  cases result with
  | ok count => exact publish_tagged (update_tagged _ (fun _ => rfl) h)
  | error message => exact h

/-! ## Handlers that may begin a generation

A connect begins its generation before it starts anything, so what it writes before is quiet and
what it starts afterwards is tagged with the new generation. -/

theorem connect_tagged (request : ConnectRequest) (m : Machine (W × List Call)) :
    Tagged m ((connect c.journaled request).run m).2 := by
  cases hv : request.validated with
  | error field =>
    rw [connect_run_invalid _ hv]
    exact .of_quiet [.record ⟨.error, (ViewerError.validation field).message⟩] (by simp) rfl
  | ok valid =>
    by_cases hs : m.ctl.status = .connecting
    · rw [connect_run_busy _ hv hs]
      exact .refl m
    · rw [connect_run_accepted _ hv hs]
      refine .quiet_trans
        (teardownCalls m.ctl ++ [.showOverlay (some connectingOverlay),
          .record ⟨.info, connectingMessage valid⟩]) ?_ ?_ (startTransport_tagged c valid (.refl _))
      · simp [release_after_cancelAll, journaled_teardown]
      · rw [List.filterMap_append, teardownCalls_quiet]
        rfl

theorem onReconnectDue_tagged (m : Machine (W × List Call)) :
    Tagged m ((onReconnectDue c.journaled).run m).2 := by
  unfold onReconnectDue
  simp only [StateT.run_bind, current_run, id_bind, pure_fst, pure_snd]
  split
  · simp only [StateT.run_bind, current_run, id_bind, pure_fst, pure_snd]
    split
    · exact .of_world ⟨[], by simp, rfl⟩
    · -- The reconnect writes one log entry, then connects.
      simp only [StateT.run_bind, id_bind]
      split
      · exact .quiet_trans [.record ⟨.info, "Attempting automatic reconnect"⟩] (by simp) rfl
          (log_tagged c _ _ (connect_tagged c _ _))
      · simp only [StateT.run_pure, pure_snd]
        exact .quiet_trans [.record ⟨.info, "Attempting automatic reconnect"⟩] (by simp) rfl
          (connect_tagged c _ _)
  · exact .refl m

theorem dispatch_tagged (kind : EventKind) (m : Machine (W × List Call)) :
    Tagged m ((dispatch c.journaled kind).run m).2 := by
  cases kind with
  | signalingOpened url result => exact onSignalingOpened_tagged c url result (.refl m)
  | link event => exact onLinkEvent_tagged c event (.refl m)
  | peer event => exact onPeerEvent_tagged c event (.refl m)
  | engine event => exact onEngineEvent_tagged c event (.refl m)
  | statsReport report => exact onStatsReport_tagged report (.refl m)
  | viewerCount result => exact onViewerCount_tagged result (.refl m)
  | reconnectDue => exact onReconnectDue_tagged c m

theorem handleEvent_tagged (e : SessionEvent) (m : Machine (W × List Call)) :
    Tagged m ((handleEvent c.journaled e).run m).2 := by
  by_cases h : e.generation = m.ctl.generation
  · rw [handleEvent_current _ h]
    exact dispatch_tagged c _ m
  · -- A stale event at most gives up the link it brought.
    rw [handleEvent_stale _ h]
    refine .of_world ?_
    unfold discard
    split <;> simp

theorem disconnect_tagged (m : Machine (W × List Call)) :
    Tagged m ((disconnect c.journaled).run m).2 := by
  refine .of_world ?_
  rw [disconnect_world]
  split
  · exact ⟨teardownCalls m.ctl, by simp [journaled_teardown], teardownCalls_quiet _⟩
  · refine ⟨teardownCalls m.ctl ++ [.showOverlay (some disconnectedOverlay),
      .record ⟨.info, "Disconnected"⟩], by simp [journaled_teardown], ?_⟩
    rw [List.filterMap_append, teardownCalls_quiet]
    rfl

theorem handleCommand_tagged (cmd : Command) (m : Machine (W × List Call)) :
    Tagged m ((handleCommand c.journaled cmd).run m).2 := by
  unfold handleCommand
  simp only [StateT.run_bind, current_run, id_bind, pure_fst, pure_snd]
  split
  · exact .refl m
  · cases cmd with
    | toggle =>
      simp only [StateT.run_bind, current_run, id_bind, pure_fst, pure_snd]
      split
      · exact connect_tagged c _ m
      · exact disconnect_tagged c m
    | connect request =>
      dsimp only
      exact connect_tagged c request m
    | disconnect => exact disconnect_tagged c m
    | playback event =>
      simp only [StateT.run_bind, id_bind, StateT.run_pure, pure_snd]
      unfold handlePlayback
      cases event with
      | error message =>
        exact publish_tagged (setOverlay_tagged c _ (log_tagged c _ _ (.refl m)))
      | _ => exact publish_tagged (setOverlay_tagged c _ (.refl m))
    | shutdown =>
      simp only [StateT.run_bind, id_bind, StateT.run_pure, pure_snd]
      exact update_tagged _ (fun _ => rfl) (disconnect_tagged c m)

end Act

namespace Machine

variable {W : Type} (c : Collaborators W)

/-- Every producer started during a turn of the loop is tagged with the generation the turn
ends in. -/
theorem step_tagged (m : Machine (W × List Call)) (input : Input) :
    Tagged m (m.step c.journaled input) := by
  cases input with
  | command cmd => exact Act.handleCommand_tagged c cmd m
  | deliver e =>
    dsimp only [step]
    split
    · exact Act.handleEvent_tagged c e m
    · exact .refl m
  | hangUp =>
    dsimp only [step]
    split
    · exact Act.update_tagged _ (fun _ => rfl) (Act.disconnect_tagged c m)
    · exact .refl m

end Machine

end LiveViewer
