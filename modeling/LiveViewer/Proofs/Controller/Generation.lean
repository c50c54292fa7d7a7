import LiveViewer.Proofs.Controller.Consistency

/-!
# Generations

The generation numbers the sessions: a connect that gets past validation and the in-progress
check, and every disconnect the loop processes, begin a new one, and an event is handled only
when it carries the current generation. This module counts the generation along any run.

Most of the work is done by the event handlers, which never begin a generation.
`Controller.Continues k k'` says that `k'` carries on from `k`: the same generation, no new
session (a live session keeps its generation and its request, or is gone), and no new reconnect
(a pending one stays or is dropped). Every event handler continues its state
(`*_continues`), except the two that the reconnect policy is made of: a peer session that fails
while connected schedules a reconnect, and a reconnect that falls due connects.

`beginsGeneration` says, from the state before a turn and what the turn takes, whether the turn
begins a generation, and `step_generation` shows that the generation then grows by exactly one
and otherwise stays. `run_generation` sums this over a run.
-/

namespace LiveViewer

namespace Controller

/-- `k'` carries on from `k`: the same generation, no new session and no new reconnect. -/
structure Continues (k k' : Controller) : Prop where
  /-- The generation stays. -/
  generation : k'.generation = k.generation
  /-- A live session was live before, with the same generation and request. -/
  session : ∀ s', k'.session = some s' →
    ∃ s, k.session = some s ∧ s'.generation = s.generation ∧ s'.request = s.request
  /-- A pending reconnect stays or is dropped. -/
  reconnect : k'.timers.reconnect = k.timers.reconnect ∨ k'.timers.reconnect = none

namespace Continues

theorem refl (k : Controller) : Continues k k where
  generation := rfl
  session := fun s' h => ⟨s', h, rfl, rfl⟩
  reconnect := .inl rfl

theorem trans {k₁ k₂ k₃ : Controller} (h₁ : Continues k₁ k₂) (h₂ : Continues k₂ k₃) :
    Continues k₁ k₃ where
  generation := h₂.generation.trans h₁.generation
  session := by
    intro s₃ hs₃
    obtain ⟨s₂, hs₂, hg₂, hr₂⟩ := h₂.session s₃ hs₃
    obtain ⟨s₁, hs₁, hg₁, hr₁⟩ := h₁.session s₂ hs₂
    exact ⟨s₁, hs₁, hg₂.trans hg₁, hr₂.trans hr₁⟩
  reconnect := by
    rcases h₂.reconnect with h | h
    · rw [h]
      exact h₁.reconnect
    · exact .inr h

/-- A change that keeps the generation, the session and the reconnect slot continues. -/
theorem of_core {k k' : Controller} (hg : k'.generation = k.generation)
    (hs : k'.session = k.session) (hr : k'.timers.reconnect = k.timers.reconnect) :
    Continues k k' where
  generation := hg
  session := fun s' h => ⟨s', hs ▸ h, rfl, rfl⟩
  reconnect := .inl hr

theorem logged (k : Controller) (level : Level) (message : String) :
    Continues k (k.logged level message) :=
  of_core rfl rfl rfl

theorem mapSession (k : Controller) (f : ActiveSession → ActiveSession)
    (hg : ∀ s, (f s).generation = s.generation) (hr : ∀ s, (f s).request = s.request) :
    Continues k { k with session := k.session.map f } where
  generation := rfl
  session := by
    intro s' hs'
    obtain ⟨s, hs, rfl⟩ := Option.map_eq_some_iff.1 hs'
    exact ⟨s, hs, hg s, hr s⟩
  reconnect := .inl rfl

/-- Ending a session keeps the generation and drops the session and every timer. -/
theorem ended (k : Controller) : Continues k k.ended where
  generation := by simp [Controller.ended]
  session := by simp [Controller.ended]
  reconnect := .inr (by simp [Controller.ended])

end Continues

end Controller

/-- A connect to `request` gets past validation and the in-progress check. -/
def Controller.accepts (k : Controller) (request : ConnectRequest) : Bool :=
  request.validated.isOk && k.status != .connecting

/-- The reconnect timer's event would connect: a reconnect is pending, the controller is still
disconnected, and the pending request is accepted. -/
def Controller.reconnectAccepted (k : Controller) : Bool :=
  match k.timers.reconnect with
  | some (_, request) => k.status == .disconnected && k.accepts request
  | none => false

/-- The event of the reconnect timer. -/
def EventKind.isReconnectDue : EventKind → Bool
  | .reconnectDue => true
  | _ => false

/-- A peer state ends a session: the peer session failed or lost its connection. -/
def PeerState.fails : PeerState → Bool
  | .failed | .disconnected => true
  | .new | .connecting | .connected | .closed => false

namespace Act

open Controller

variable {W : Type} (c : Collaborators W)

/-! ## Handlers that carry on

Each lemma takes what came before (`Continues k m.ctl`) and carries it over the handler, so that
the lemmas chain in the order the handlers run. -/

theorem endSession_continues {k : Controller} {m : Machine W} (h : Continues k m.ctl) :
    Continues k ((endSession c).run m).2.ctl := by
  rw [endSession_ctl]
  exact h.trans (.ended _)

theorem failSetup_continues (e : ViewerError) {k : Controller} {m : Machine W}
    (h : Continues k m.ctl) : Continues k ((failSetup c e).run m).2.ctl := by
  rw [failSetup_ctl]
  exact (h.trans (.logged _ _ _)).trans (.ended _)

theorem markConnected_continues {k : Controller} {m : Machine W} (h : Continues k m.ctl) :
    Continues k ((markConnected c).run m).2.ctl := by
  by_cases hs : m.ctl.status = .connecting
  · obtain ⟨viewer, he⟩ := markConnected_ctl c hs
    rw [he]
    exact h.trans (.of_core rfl rfl rfl)
  · rw [markConnected_of_ne c hs]
    exact h

theorem startStatsSampler_continues {k : Controller} {m : Machine W} (h : Continues k m.ctl) :
    Continues k ((startStatsSampler c).run m).2.ctl := by
  rw [startStatsSampler_ctl]
  split
  · exact h.trans (.of_core rfl rfl rfl)
  · exact h

theorem startNegotiation_continues {k : Controller} {m : Machine W} (h : Continues k m.ctl) :
    Continues k ((startNegotiation c).run m).2.ctl := by
  rcases startNegotiation_ctl c m with he | ⟨peer, pump, he⟩
  · rw [he]
    exact h
  · rw [he]
    exact h.trans (.mapSession _ _ (fun _ => rfl) (fun _ => rfl))

theorem openSignaling_continues (request : ConnectRequest) {k : Controller} {m : Machine W}
    (h : Continues k m.ctl) : Continues k ((openSignaling c request).run m).2.ctl := by
  unfold openSignaling
  cases signalingUrl request.serverEndpoint with
  | error e => exact failSetup_continues c _ h
  | ok url =>
    simp only [StateT.run_bind, spawn_run, id_bind, pure_fst, pure_snd, updateSession_run]
    exact h.trans (.mapSession _ _ (fun _ => rfl) (fun _ => rfl))

theorem startSegmented_continues (request : ConnectRequest) {k : Controller} {m : Machine W}
    (h : Continues k m.ctl) : Continues k ((startSegmented c request).run m).2.ctl := by
  unfold startSegmented
  cases manifestUrl request.serverEndpoint request.streamKey with
  | error e => exact failSetup_continues c _ h
  | ok manifest =>
    simp only [StateT.run_bind, id_bind]
    have ha := attachSegmented_ctl c manifest m
    generalize ((attachSegmented c manifest).run m).2 = m₁ at ha ⊢
    cases ((attachSegmented c manifest).run m).1 with
    | error e => exact failSetup_continues c _ (ha ▸ h)
    | ok playback =>
      simp only [StateT.run_bind, spawn_run, updateSession_run, id_bind, pure_fst, pure_snd]
      -- Attaching the playback keeps the session's generation and request.
      have h₁ : ∀ pump : Nat, Continues k
          { m₁.ctl with session := m₁.ctl.session.map (fun s : ActiveSession =>
            { s with playback := some playback, tasks := s.tasks ++ [pump] }) } := fun _ =>
        (ha ▸ h).trans (.mapSession _ _ (fun _ => rfl) (fun _ => rfl))
      by_cases hn : playback = .native
      · subst hn
        simp only [beq_self_eq_true, if_true]
        exact markConnected_continues c (h₁ _)
      · simp only [hn, beq_iff_eq, if_false, StateT.run_pure, pure_snd]
        exact h₁ _

theorem startTransport_continues (request : ConnectRequest) {k : Controller} {m : Machine W}
    (h : Continues k m.ctl) : Continues k ((startTransport c request).run m).2.ctl := by
  unfold startTransport
  split
  · exact openSignaling_continues c request h
  · exact startSegmented_continues c request h

theorem dispatchSignal_continues (msg : SignalMessage) {k : Controller} {m : Machine W}
    (h : Continues k m.ctl) : Continues k ((dispatchSignal c msg).run m).2.ctl := by
  unfold dispatchSignal
  cases msg with
  | answer sdp =>
    simp only [StateT.run_bind, current_run, id_bind, pure_fst, pure_snd]
    split
    · simp only [StateT.run_bind, ask_run, id_bind, pure_fst, pure_snd]
      split
      · exact h
      · simp only [StateT.run_bind, current_run, id_bind, pure_fst, pure_snd]
        split
        · exact failSetup_continues c _ h
        · exact h.trans (.logged _ _ _)
    · exact h
  | iceCandidate candidate sdpMid sdpMLineIndex =>
    simp only [StateT.run_bind, current_run, id_bind, pure_fst, pure_snd]
    split
    · simp only [StateT.run_bind, ask_run, id_bind, pure_fst, pure_snd]
      split
      · exact h
      · exact h.trans (.logged _ _ _)
    · exact h
  | error message => exact h.trans (.logged _ _ _)
  | offer => exact h.trans (.logged _ _ _)

theorem onSignalingClosed_continues {k : Controller} {m : Machine W} (h : Continues k m.ctl) :
    Continues k ((onSignalingClosed c).run m).2.ctl := by
  unfold onSignalingClosed
  simp only [StateT.run_bind, current_run, id_bind, pure_fst, pure_snd]
  split
  · -- The channel is marked closed, the closing logged, and a live session ended.
    have h₁ : ∀ (link : Nat) (channel : SignalingChannel), Continues k
        ({ m.ctl with session := m.ctl.session.map (fun s : ActiveSession =>
          { s with signaling := some (link, channel.markClosed) }) }.logged .warn
          (ViewerError.signaling .closed).message) := fun link channel =>
      (h.trans (.mapSession _ (fun s => { s with signaling := some (link, channel.markClosed) })
        (fun _ => rfl) (fun _ => rfl))).trans (.logged _ _ _)
    split
    all_goals
      simp only [StateT.run_bind, touch_run, updateSession_run, log_run, current_run, id_bind,
        pure_fst, pure_snd]
      split
      · exact endSession_continues c (h₁ _ _)
      · exact h₁ _ _
  · simp only [StateT.run_bind, log_run, current_run, id_bind, pure_fst, pure_snd]
    split
    · exact endSession_continues c (h.trans (.logged _ _ _))
    · exact h.trans (.logged _ _ _)

theorem onLinkEvent_continues (e : LinkEvent) {k : Controller} {m : Machine W}
    (h : Continues k m.ctl) : Continues k ((onLinkEvent c e).run m).2.ctl := by
  unfold onLinkEvent
  cases e with
  | text raw =>
    dsimp only
    split
    · exact dispatchSignal_continues c _ h
    · exact h.trans (.logged _ _ _)
  | binary length => exact h.trans (.logged _ _ _)
  | error message => exact h.trans (.logged _ _ _)
  | closed => exact onSignalingClosed_continues c h

theorem onSignalingOpened_continues (url : Url) (result : Except SignalingError Nat)
    {k : Controller} {m : Machine W} (h : Continues k m.ctl) :
    Continues k ((onSignalingOpened c url result).run m).2.ctl := by
  unfold onSignalingOpened
  simp only [StateT.run_bind, current_run, id_bind, pure_fst, pure_snd]
  split
  · split <;> simp only [StateT.run_bind, touch_run, id_bind, StateT.run_pure, pure_snd] <;>
      exact h
  · split
    · simp only [StateT.run_bind, log_run, id_bind, pure_snd]
      exact endSession_continues c (h.trans (.logged _ _ _))
    · rename_i link
      simp only [StateT.run_bind, log_run, spawn_run, current_run, id_bind, pure_fst, pure_snd]
      -- The link joins the session; negotiation carries on from there.
      have h₁ : ∀ pump : Nat, Continues k
          { m.ctl.logged .info ("Signaling connected to " ++ url.text) with
            session := m.ctl.session.map (fun s : ActiveSession =>
              { s with signaling := some (link, { url }), tasks := s.tasks ++ [pump] }) } :=
        fun _ => (h.trans (.logged _ _ _)).trans (.mapSession _ _ (fun _ => rfl) (fun _ => rfl))
      split
      all_goals
        simp only [StateT.run_bind, touch_run, updateSession_run, id_bind, pure_snd]
        split
        · exact failSetup_continues c _ (startNegotiation_continues c (h₁ _))
        · exact startNegotiation_continues c (h₁ _)

theorem onEngineEvent_continues (e : EngineEvent) {k : Controller} {m : Machine W}
    (h : Continues k m.ctl) : Continues k ((onEngineEvent c e).run m).2.ctl := by
  unfold onEngineEvent
  cases e with
  | manifestParsed => exact markConnected_continues c h
  | error message =>
    simp only [StateT.run_bind, current_run, id_bind, pure_fst, pure_snd]
    split
    · exact failSetup_continues c _ h
    · exact h.trans (.logged _ _ _)
  | ended => exact h.trans (.logged _ _ _)

theorem onStatsReport_continues (report : Option InboundReport) {k : Controller}
    {m : Machine W} (h : Continues k m.ctl) :
    Continues k ((onStatsReport report : Act W Unit).run m).2.ctl := by
  rw [onStatsReport_ctl]
  split
  · exact h.trans (.of_core rfl rfl rfl)
  · exact h

theorem onViewerCount_continues (result : Except String UInt32) {k : Controller}
    {m : Machine W} (h : Continues k m.ctl) :
    Continues k ((onViewerCount result : Act W Unit).run m).2.ctl := by
  rw [onViewerCount_ctl]
  split
  · exact h.trans (.of_core rfl rfl rfl)
  · exact h

/-! ## Failures and the reconnect timer -/

/-- A transport failure ends the session in the generation it had. -/
theorem transportFailure_generation (state : PeerState) (m : Machine W) :
    ((transportFailure c state).run m).2.ctl.generation = m.ctl.generation := by
  obtain ⟨id, h⟩ := transportFailure_ctl c state m
  rw [h]
  dsimp only
  split <;> simp

theorem onPeerState_generation (state : PeerState) (m : Machine W) :
    ((onPeerState c state).run m).2.ctl.generation = m.ctl.generation := by
  unfold onPeerState
  cases state with
  | connected =>
    simp only [StateT.run_bind, id_bind]
    exact (startStatsSampler_continues c (markConnected_continues c (.refl _))).generation
  | failed | disconnected =>
    simp only [StateT.run_bind, current_run, id_bind, pure_fst, pure_snd]
    split
    · exact transportFailure_generation c _ m
    · exact (failSetup_continues c _ (.refl _)).generation
    · rfl
  | new | connecting | closed => rfl

/-- Every peer state carries on, except a failure while connected, which schedules a
reconnect. -/
theorem onPeerState_continues (state : PeerState) {k : Controller} {m : Machine W}
    (h : Continues k m.ctl) (hf : state.fails → m.ctl.status ≠ .connected) :
    Continues k ((onPeerState c state).run m).2.ctl := by
  unfold onPeerState
  cases state with
  | connected =>
    simp only [StateT.run_bind, id_bind]
    exact startStatsSampler_continues c (markConnected_continues c h)
  | failed | disconnected =>
    simp only [StateT.run_bind, current_run, id_bind, pure_fst, pure_snd]
    split
    · exact absurd ‹_› (hf rfl)
    · exact failSetup_continues c _ h
    · exact h
  | new | connecting | closed => exact h

theorem onPeerEvent_continues (e : PeerEvent) {k : Controller} {m : Machine W}
    (h : Continues k m.ctl)
    (hf : ∀ state, e = .stateChanged state → state.fails → m.ctl.status ≠ .connected) :
    Continues k ((onPeerEvent c e).run m).2.ctl := by
  unfold onPeerEvent
  cases e with
  | track stream =>
    simp only [StateT.run_bind, current_run, id_bind, pure_fst, pure_snd]
    split
    · -- The first track binds its stream; later ones only reach the surface.
      split
      · simp only [StateT.run_bind, updateSession_run, touch_run, id_bind, pure_snd]
        exact markConnected_continues c
          (h.trans (.mapSession _ (fun s => { s with boundStream := some stream.streamId })
            (fun _ => rfl) (fun _ => rfl)))
      · split
        · simp only [StateT.run_bind, touch_run, id_bind, pure_snd]
          exact markConnected_continues c h
        · exact markConnected_continues c h
    · exact h
  | localCandidate candidate sdpMid sdpMLineIndex =>
    rw [sendSignal_ctl]
    exact h
  | stateChanged state => exact onPeerState_continues c state h (hf state rfl)

theorem onPeerEvent_generation (e : PeerEvent) (m : Machine W) :
    ((onPeerEvent c e).run m).2.ctl.generation = m.ctl.generation := by
  cases e with
  | stateChanged state => exact onPeerState_generation c state m
  | track stream => exact (onPeerEvent_continues c _ (.refl _) (by simp)).generation
  | localCandidate candidate sdpMid sdpMLineIndex =>
    exact (onPeerEvent_continues c _ (.refl _) (by simp)).generation

/-! ## Connects -/

theorem startTransport_generation (request : ConnectRequest) (m : Machine W) :
    ((startTransport c request).run m).2.ctl.generation = m.ctl.generation :=
  (startTransport_continues c request (.refl _)).generation

/-- A connect to an accepted request begins the generation after the current one. -/
theorem connect_generation (request : ConnectRequest) (m : Machine W) :
    ((connect c request).run m).2.ctl.generation =
      m.ctl.generation + if m.ctl.accepts request then 1 else 0 := by
  cases hv : request.validated with
  | error field =>
    rw [connect_run_invalid c hv]
    simp [Controller.accepts, hv, Except.isOk, Except.toBool]
  | ok valid =>
    by_cases hs : m.ctl.status = .connecting
    · rw [connect_run_busy c hv hs]
      simp [Controller.accepts, hs]
    · rw [connect_run_accepted c hv hs]
      -- The transport starts in the begun session's generation and keeps it.
      simp only [pure_snd, startTransport_generation]
      simp [Controller.begun, Controller.accepts, hv, hs, Except.isOk, Except.toBool]

/-- The reconnect timer connects, and so begins a generation, exactly when the pending request
is accepted while the controller is still disconnected. -/
theorem onReconnectDue_generation (m : Machine W) :
    ((onReconnectDue c).run m).2.ctl.generation =
      m.ctl.generation + if m.ctl.reconnectAccepted then 1 else 0 := by
  unfold onReconnectDue Controller.reconnectAccepted
  cases hr : m.ctl.timers.reconnect with
  | none => simp [hr]
  | some pending =>
    obtain ⟨id, request⟩ := pending
    simp only [StateT.run_bind, current_run, id_bind, pure_fst, pure_snd, hr, updateTimers_run]
    split
    · rename_i hs
      simp_all
    · rename_i hs
      simp only [StateT.run_bind, log_run, id_bind, pure_snd]
      -- Whatever the connect answers, only its own effect on the generation remains.
      split
      · simp only [log_run, pure_snd, Controller.logged]
        rw [connect_generation]
        simp_all [Controller.accepts]
      · simp only [StateT.run_pure, pure_snd]
        rw [connect_generation]
        simp_all [Controller.accepts]

/-! ## Events and commands -/

/-- Of the events of the current generation, only the reconnect timer's can begin a generation:
when the pending reconnect is accepted. -/
theorem dispatch_generation (kind : EventKind) (m : Machine W) :
    ((dispatch c kind).run m).2.ctl.generation =
      m.ctl.generation + if kind.isReconnectDue && m.ctl.reconnectAccepted then 1 else 0 := by
  cases kind with
  | signalingOpened url result =>
    exact (onSignalingOpened_continues c url result (.refl _)).generation
  | link event => exact (onLinkEvent_continues c event (.refl _)).generation
  | peer event => exact onPeerEvent_generation c event m
  | engine event => exact (onEngineEvent_continues c event (.refl _)).generation
  | statsReport report => exact (onStatsReport_continues report (.refl _)).generation
  | viewerCount result => exact (onViewerCount_continues result (.refl _)).generation
  | reconnectDue => exact onReconnectDue_generation c m

theorem handleEvent_generation (e : SessionEvent) (m : Machine W) :
    ((handleEvent c e).run m).2.ctl.generation =
      m.ctl.generation +
        if e.generation == m.ctl.generation && e.kind.isReconnectDue && m.ctl.reconnectAccepted
        then 1 else 0 := by
  by_cases h : e.generation = m.ctl.generation
  · rw [handleEvent_current c h, dispatch_generation]
    simp [h]
  · rw [handleEvent_stale c h]
    simp [h]

/-- A toggle, a connect, a disconnect and a shutdown each begin at most one generation; a stopped
controller refuses them all. -/
theorem handleCommand_generation (cmd : Command) (m : Machine W) :
    ((handleCommand c cmd).run m).2.ctl.generation =
      m.ctl.generation +
        if m.ctl.running && match cmd with
          | .toggle => !m.ctl.status.isRestartable || m.ctl.accepts m.ctl.config.connectRequest
          | .connect request => m.ctl.accepts request
          | .disconnect | .shutdown => true
          | .playback _ => false
        then 1 else 0 := by
  unfold handleCommand
  simp only [StateT.run_bind, current_run, id_bind, pure_fst, pure_snd]
  split
  · rename_i hr
    simp_all
  · rename_i hr
    have hr' : m.ctl.running = true := by simpa using hr
    cases cmd with
    | toggle =>
      simp only [StateT.run_bind, current_run, id_bind, pure_fst, pure_snd]
      split
      · -- A restartable status is never Connecting, so only validation decides.
        rename_i hs
        rw [connect_generation]
        simp [hr', hs]
      · rename_i hs
        simp only [StateT.run_bind, StateT.run_pure, id_bind, pure_snd, disconnect_ctl]
        simp [hr', hs]
    | connect request =>
      rw [connect_generation]
      simp [hr']
    | disconnect =>
      simp only [StateT.run_bind, StateT.run_pure, id_bind, pure_snd, disconnect_ctl]
      simp [hr']
    | playback event =>
      simp only [StateT.run_bind, StateT.run_pure, id_bind, pure_snd, handlePlayback_ctl]
      split <;> simp
    | shutdown =>
      simp only [StateT.run_bind, StateT.run_pure, id_bind, pure_snd, stop_ctl]
      simp [hr']

end Act

namespace Machine

open Controller

variable {W : Type} (c : Collaborators W)

/-- Whether a turn of the loop begins a generation: every disconnect the loop processes (a
disconnect, a toggle that disconnects, a shutdown, the last holder letting go) and every connect
that gets past validation and the in-progress check (a connect, a toggle that connects, and the
reconnect timer's event of the current generation). A stopped loop begins nothing. -/
def beginsGeneration (k : Controller) : Input → Bool
  | .command cmd => k.running && match cmd with
    | .toggle => !k.status.isRestartable || k.accepts k.config.connectRequest
    | .connect request => k.accepts request
    | .disconnect | .shutdown => true
    | .playback _ => false
  | .deliver e =>
    k.running && e.generation == k.generation && e.kind.isReconnectDue && k.reconnectAccepted
  | .hangUp => k.running

/-- A turn that begins a generation moves to the next one; every other turn keeps it. -/
theorem step_generation (m : Machine W) (input : Input) :
    (m.step c input).ctl.generation =
      m.ctl.generation + if beginsGeneration m.ctl input then 1 else 0 := by
  cases input with
  | command cmd => exact Act.handleCommand_generation c cmd m
  | deliver e =>
    dsimp only [step]
    by_cases hr : m.ctl.running
    · rw [if_pos hr, Act.handleEvent_generation]
      simp [beginsGeneration, hr, Bool.and_assoc]
    · simp [beginsGeneration, hr]
  | hangUp =>
    dsimp only [step]
    by_cases hr : m.ctl.running
    · rw [if_pos hr, Act.stop_ctl]
      simp [beginsGeneration, hr]
    · simp [beginsGeneration, hr]

/-- The number of turns of `inputs`, taken from `m` on, that begin a generation. -/
def generationsBegun (m : Machine W) : List Input → Nat
  | [] => 0
  | input :: inputs =>
    (if beginsGeneration m.ctl input then 1 else 0) + generationsBegun (m.step c input) inputs

/-- Along any run the generation grows by exactly the number of turns that begin one. -/
theorem run_generation (m : Machine W) (inputs : List Input) :
    (m.run c inputs).ctl.generation = m.ctl.generation + generationsBegun c m inputs := by
  induction inputs generalizing m with
  | nil => rfl
  | cons input inputs ih =>
    rw [run_cons, ih, step_generation, generationsBegun]
    omega

/-- The generation never goes back. -/
theorem generation_le_run (m : Machine W) (inputs : List Input) :
    m.ctl.generation ≤ (m.run c inputs).ctl.generation := by
  rw [run_generation]
  omega

end Machine

end LiveViewer
