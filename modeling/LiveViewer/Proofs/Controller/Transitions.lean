import LiveViewer.Proofs.Controller.Inert
import LiveViewer.Proofs.Controller.Sessions

/-!
# The status lifecycle

The status is written by a handful of handlers, some of which call each other half way: a
connect sets Connecting and then starts its transport, which may mark the session Connected at
once (a playlist the surface plays itself) or end it (a setup that fails at once). This module
says, for every turn of the loop, which moves of the status it can make.

A turn that begins a session (`Controller.startsSession`: an accepted connect, toggle or
reconnect) passes through a Connecting state of the next generation, and from there the
transport's start leaves it Connecting, Connected by a native playlist, or Disconnected
(`TransportMove`). Every other turn makes one of the moves of `Controller.StatusMove`: an event
of the current generation moves Connecting to Connected only when it reports the transport's
success, and ends a session only when it can (`EventKind.Moves`); a disconnect ends a live
session. No move leads to Idle, so the status never returns there once it left it.
-/

namespace LiveViewer

namespace EventKind

/-- The event reports that the transport works: a track or the Connected state of the peer
session, or the first playlist the segment engine read. -/
def succeeds : EventKind → Bool
  | .peer (.track _) | .peer (.stateChanged .connected) | .engine (.manifestParsed ..) => true
  | _ => false

/-- The event may end a session being set up: the outcome of the signaling open (a failure, or
a failed negotiation after it), a text frame (an answer the peer session refused), the end of
the link, an engine error, and a peer session that failed or lost its connection. -/
def endsSetup : EventKind → Bool
  | .signalingOpened .. | .link (.text _) | .link .closed | .engine (.error _) => true
  | .peer (.stateChanged state) => state.fails
  | _ => false

/-- The event may end a connected session: the end of the link, and a peer session that failed
or lost its connection. -/
def endsLive : EventKind → Bool
  | .link .closed => true
  | .peer (.stateChanged state) => state.fails
  | _ => false

/-- The moves of the status that an event of the current generation can make. -/
inductive Moves (kind : EventKind) : Status → Status → Prop
  | stay (s : Status) : Moves kind s s
  | success : kind.succeeds = true → Moves kind .connecting .connected
  | failSetup : kind.endsSetup = true → Moves kind .connecting .disconnected
  | failLive : kind.endsLive = true → Moves kind .connected .disconnected

/-- Marking a session connected is a move of an event that reports success. -/
theorem Moves.marked {kind : EventKind} (hk : kind.succeeds = true) (s : Status) :
    kind.Moves s (if s = .connecting then .connected else s) := by
  split
  · rename_i hs
    rw [hs]
    exact .success hk
  · exact .stay s

theorem Moves.setupFailed {kind : EventKind} (hk : kind.endsSetup = true) {s : Status}
    (hs : s = .connecting) : kind.Moves s .disconnected :=
  hs ▸ .failSetup hk

/-- A session that either kind of failure may end, ended. -/
theorem Moves.ended {kind : EventKind} (hs : kind.endsSetup = true) (hl : kind.endsLive = true)
    {s : Status} (hlive : s = .connecting ∨ s = .connected) : kind.Moves s .disconnected := by
  rcases hlive with h | h <;> rw [h]
  · exact .failSetup hs
  · exact .failLive hl

/-- No event brings the status back to Idle. -/
theorem Moves.ne_idle {kind : EventKind} {s s' : Status} (h : kind.Moves s s') (hs : s ≠ .idle) :
    s' ≠ .idle := by
  cases h with
  | stay => exact hs
  | success | failSetup | failLive => simp

end EventKind

namespace Controller

/-- The turn begins a session: a connect, or a toggle from Idle or Disconnected, to a request it
accepts, or the reconnect timer's event of the current generation when the pending reconnect is
accepted; all while running. -/
def startsSession (k : Controller) : Input → Bool
  | .command .toggle => k.running && k.status.isRestartable && k.accepts k.config.connectRequest
  | .command (.connect request) => k.running && k.accepts request
  | .deliver e =>
    k.running && e.generation == k.generation && e.kind.isReconnectDue && k.reconnectAccepted
  | _ => false

/-- The turn disconnects: a disconnect, a shutdown, a toggle while Connecting or Connected, or
the last holder letting go; all while running. -/
def disconnects (k : Controller) : Input → Bool
  | .command .disconnect | .command .shutdown | .hangUp => k.running
  | .command .toggle => k.running && !k.status.isRestartable
  | _ => false

/-- The moves of the status that a turn from `k` which begins no session can make: an event of
the current generation moves it as its kind allows, and a disconnect ends a live session. -/
inductive StatusMove (k : Controller) : Input → Status → Prop
  | stay (input : Input) : StatusMove k input k.status
  | event {e : SessionEvent} {s : Status} : k.running = true → e.generation = k.generation →
      e.kind.Moves k.status s → StatusMove k (.deliver e) s
  | disconnect {input : Input} : k.disconnects input = true →
      (k.status = .connecting ∨ k.status = .connected) → StatusMove k input .disconnected

theorem StatusMove.ne_idle {k : Controller} {input : Input} {s : Status}
    (h : k.StatusMove input s) (hs : k.status ≠ .idle) : s ≠ .idle := by
  cases h with
  | stay => exact hs
  | event _ _ hm => exact hm.ne_idle hs
  | disconnect => simp

/-- A disconnect leaves Idle as it is and every other status Disconnected. -/
theorem disconnected_status_eq {k : Controller} (hk : k.Consistent) :
    k.disconnected.status = if k.status = .idle then .idle else .disconnected := by
  unfold disconnected
  cases hs : k.session with
  | none => by_cases hi : k.status = .idle <;> simp [hi]
  | some s =>
    -- A live session is Connecting or Connected, never Idle.
    have hlive := hk.session_iff.1 (by simp [hs])
    have hi : k.status ≠ .idle := by rcases hlive with h | h <;> simp [h]
    simp [hi]

/-- A turn that disconnects makes a disconnect's move. -/
theorem StatusMove.of_disconnected {k : Controller} (hk : k.Consistent) {input : Input}
    (hd : k.disconnects input = true) : k.StatusMove input k.disconnected.status := by
  rw [disconnected_status_eq hk]
  by_cases hi : k.status = .idle
  · rw [if_pos hi, ← hi]
    exact .stay input
  · rw [if_neg hi]
    cases hs : k.status with
    | idle => exact absurd hs hi
    | disconnected => exact hs ▸ .stay input
    | connecting => exact .disconnect hd (.inl hs)
    | connected => exact .disconnect hd (.inr hs)

end Controller

namespace Act

variable {W : Type} (c : Collaborators W)

/-- Where starting the transport of `request` in world `w` leaves a session that is Connecting:
still Connecting, Connected when the surface plays a segmented session's playlist itself, or
Disconnected after a setup failure. -/
inductive TransportMove (request : ConnectRequest) (w : W) : Status → Prop
  | pending : TransportMove request w .connecting
  | native : request.transport = .segmentedPull → c.nativeHls w = true →
      TransportMove request w .connected
  | failed : TransportMove request w .disconnected

theorem TransportMove.ne_idle {request : ConnectRequest} {w : W} {s : Status}
    (h : TransportMove c request w s) : s ≠ .idle := by
  cases h <;> simp

/-! ## The status after each handler -/

theorem endSession_status (m : Machine W) :
    ((endSession c).run m).2.ctl.status = .disconnected := by
  rw [endSession_ctl]
  simp [Controller.ended]

theorem failSetup_status (e : ViewerError) (m : Machine W) :
    ((failSetup c e).run m).2.ctl.status = .disconnected := by
  rw [failSetup_ctl]
  simp [Controller.ended]

theorem transportFailure_status (state : PeerState) (m : Machine W) :
    ((transportFailure c state).run m).2.ctl.status = .disconnected := by
  obtain ⟨id, h⟩ := transportFailure_ctl c state m
  rw [h]
  dsimp only
  split <;> simp [Controller.ended]

theorem markConnected_status (m : Machine W) :
    ((markConnected c).run m).2.ctl.status =
      if m.ctl.status = .connecting then .connected else m.ctl.status := by
  by_cases hs : m.ctl.status = .connecting
  · obtain ⟨viewer, h⟩ := markConnected_ctl c hs
    simp [h, hs]
  · rw [markConnected_of_ne c hs, if_neg hs]

theorem startStatsSampler_status (m : Machine W) :
    ((startStatsSampler c).run m).2.ctl.status = m.ctl.status := by
  rw [startStatsSampler_ctl]
  split <;> rfl

/-- A connect it does not accept leaves the status as it is. -/
theorem connect_status_of_refused {request : ConnectRequest} {m : Machine W}
    (h : m.ctl.accepts request = false) :
    ((connect c request).run m).2.ctl.status = m.ctl.status := by
  cases hv : request.validated with
  | error field =>
    rw [connect_run_invalid c hv]
    rfl
  | ok valid =>
    have hs : m.ctl.status = .connecting := by
      simpa [Controller.accepts, hv, Except.isOk, Except.toBool] using h
    rw [connect_run_busy c hv hs]
    rfl

/-- The reconnect timer's event leaves the status as it is when the pending reconnect is not
accepted. -/
theorem onReconnectDue_status_of_refused {m : Machine W}
    (h : m.ctl.reconnectAccepted = false) :
    ((onReconnectDue c).run m).2.ctl.status = m.ctl.status := by
  unfold onReconnectDue
  cases hr : m.ctl.timers.reconnect with
  | none => simp [hr]
  | some pending =>
    obtain ⟨id, request⟩ := pending
    simp only [StateT.run_bind, current_run, id_bind, pure_fst, pure_snd, hr, updateTimers_run]
    split
    · rfl
    · rename_i hs
      have hd : m.ctl.status = .disconnected := by simpa using hs
      -- Still disconnected, so only the request can be refused, and a refused connect only logs.
      have ha : m.ctl.accepts request = false := by
        simpa [Controller.reconnectAccepted, hr, hd] using h
      simp only [StateT.run_bind, log_run, id_bind, pure_snd]
      -- Whatever the refused connect answers, at most one more entry is logged.
      split
      · simp only [log_run, pure_snd, Controller.logged]
        refine (connect_status_of_refused c ?_).trans rfl
        simpa [Controller.accepts] using ha
      · simp only [StateT.run_pure, pure_snd]
        refine (connect_status_of_refused c ?_).trans rfl
        simpa [Controller.accepts] using ha

/-! ## The moves of each event handler -/

theorem onSignalingOpened_moves (url : Url) (result : Except SignalingError Nat) (m : Machine W) :
    (EventKind.signalingOpened url result).Moves m.ctl.status
      ((onSignalingOpened c url result).run m).2.ctl.status := by
  unfold onSignalingOpened
  simp only [StateT.run_bind, current_run, id_bind, pure_fst, pure_snd]
  split
  · -- Not connecting: at most the link is given up.
    split <;> simp only [StateT.run_bind, touch_run, id_bind, StateT.run_pure, pure_snd] <;>
      exact .stay _
  · rename_i hs
    have hc : m.ctl.status = .connecting := by simpa using hs
    split
    · simp only [StateT.run_bind, log_run, id_bind, pure_snd]
      rw [endSession_status, hc]
      exact .failSetup rfl
    · simp only [StateT.run_bind, log_run, spawn_run, current_run, id_bind, pure_fst, pure_snd]
      -- The link joins the session, which stays Connecting unless negotiation fails.
      split
      all_goals
        simp only [StateT.run_bind, touch_run, updateSession_run, id_bind, pure_snd]
        split
        · rw [failSetup_status, hc]
          exact .failSetup rfl
        · simp only [StateT.run_pure, pure_snd]
          rw [startNegotiation_status]
          exact .stay _

theorem dispatchSignal_moves (raw : String) (msg : SignalMessage) (m : Machine W) :
    (EventKind.link (.text raw)).Moves m.ctl.status ((dispatchSignal c msg).run m).2.ctl.status := by
  unfold dispatchSignal
  cases msg with
  | answer sdp =>
    simp only [StateT.run_bind, current_run, id_bind, pure_fst, pure_snd]
    split
    · simp only [StateT.run_bind, ask_run, id_bind, pure_fst, pure_snd]
      split
      · exact .stay _
      · simp only [StateT.run_bind, current_run, id_bind, pure_fst, pure_snd]
        split
        · -- A refused answer ends a session that is still being set up.
          rename_i hs
          rw [failSetup_status]
          exact .setupFailed rfl (by simpa using hs)
        · exact .stay _
    · exact .stay _
  | iceCandidate candidate sdpMid sdpMLineIndex =>
    simp only [StateT.run_bind, current_run, id_bind, pure_fst, pure_snd]
    split
    · simp only [StateT.run_bind, ask_run, id_bind, pure_fst, pure_snd]
      split <;> exact .stay _
    · exact .stay _
  | error message => exact .stay _
  | offer => exact .stay _

theorem onSignalingClosed_moves (m : Machine W) :
    (EventKind.link .closed).Moves m.ctl.status ((onSignalingClosed c).run m).2.ctl.status := by
  unfold onSignalingClosed
  simp only [StateT.run_bind, current_run, id_bind, pure_fst, pure_snd]
  -- Marking the channel closed and logging keep the status; a live session then ends.
  split
  · split
    all_goals
      simp only [StateT.run_bind, touch_run, updateSession_run, log_run, current_run, id_bind,
        pure_fst, pure_snd]
      split
      · rename_i hlive
        rw [endSession_status]
        exact .ended rfl rfl (by simpa using hlive)
      · exact .stay _
  · simp only [StateT.run_bind, log_run, current_run, id_bind, pure_fst, pure_snd]
    split
    · rename_i hlive
      rw [endSession_status]
      exact .ended rfl rfl (by simpa using hlive)
    · exact .stay _

theorem onLinkEvent_moves (e : LinkEvent) (m : Machine W) :
    (EventKind.link e).Moves m.ctl.status ((onLinkEvent c e).run m).2.ctl.status := by
  unfold onLinkEvent
  cases e with
  | text raw =>
    dsimp only
    split
    · exact dispatchSignal_moves c raw _ m
    · exact .stay _
  | binary length => exact .stay _
  | error message => exact .stay _
  | closed => exact onSignalingClosed_moves c m

theorem onPeerState_moves (state : PeerState) (m : Machine W) :
    (EventKind.peer (.stateChanged state)).Moves m.ctl.status
      ((onPeerState c state).run m).2.ctl.status := by
  unfold onPeerState
  cases state with
  | connected =>
    simp only [StateT.run_bind, id_bind]
    rw [startStatsSampler_status, markConnected_status]
    exact .marked rfl _
  | failed | disconnected =>
    simp only [StateT.run_bind, current_run, id_bind, pure_fst, pure_snd]
    split
    · rename_i hs
      rw [transportFailure_status, hs]
      exact .failLive rfl
    · rename_i hs
      rw [failSetup_status]
      exact .setupFailed rfl hs
    · exact .stay _
  | new | connecting | closed => exact .stay _

theorem onPeerEvent_moves (e : PeerEvent) (m : Machine W) :
    (EventKind.peer e).Moves m.ctl.status ((onPeerEvent c e).run m).2.ctl.status := by
  unfold onPeerEvent
  cases e with
  | track stream =>
    simp only [StateT.run_bind, current_run, id_bind, pure_fst, pure_snd]
    split
    · -- Binding the stream or adding the track keeps the status; then the session is marked.
      split
      · simp only [StateT.run_bind, updateSession_run, touch_run, id_bind, pure_snd]
        rw [markConnected_status]
        exact .marked rfl _
      · split
        · simp only [StateT.run_bind, touch_run, id_bind, pure_snd]
          rw [markConnected_status]
          exact .marked rfl _
        · rw [markConnected_status]
          exact .marked rfl _
    · exact .stay _
  | localCandidate candidate sdpMid sdpMLineIndex =>
    rw [sendSignal_ctl]
    exact .stay _
  | stateChanged state => exact onPeerState_moves c state m

theorem onEngineEvent_moves (e : EngineEvent) (m : Machine W) :
    (EventKind.engine e).Moves m.ctl.status ((onEngineEvent c e).run m).2.ctl.status := by
  unfold onEngineEvent
  cases e with
  | manifestParsed =>
    rw [markConnected_status]
    exact .marked rfl _
  | error message =>
    simp only [StateT.run_bind, current_run, id_bind, pure_fst, pure_snd]
    split
    · rename_i hs
      rw [failSetup_status]
      exact .setupFailed rfl (by simpa using hs)
    · exact .stay _
  | ended => exact .stay _

/-- Every event of the current generation moves the status as its kind allows, unless it is the
reconnect timer's event of an accepted reconnect, which begins a session. -/
theorem dispatch_moves (kind : EventKind) {m : Machine W}
    (ha : (kind.isReconnectDue && m.ctl.reconnectAccepted) = false) :
    kind.Moves m.ctl.status ((dispatch c kind).run m).2.ctl.status := by
  cases kind with
  | signalingOpened url result => exact onSignalingOpened_moves c url result m
  | link event => exact onLinkEvent_moves c event m
  | peer event => exact onPeerEvent_moves c event m
  | engine event => exact onEngineEvent_moves c event m
  | statsReport report =>
    dsimp only [dispatch]
    rw [onStatsReport_ctl]
    split <;> exact .stay _
  | viewerCount result =>
    dsimp only [dispatch]
    rw [onViewerCount_ctl]
    split <;> exact .stay _
  | reconnectDue =>
    have hr : m.ctl.reconnectAccepted = false := by simpa [EventKind.isReconnectDue] using ha
    rw [show dispatch c .reconnectDue = onReconnectDue c from rfl,
      onReconnectDue_status_of_refused c hr]
    exact .stay _

/-! ## Starting the transport -/

/-- A playlist is played natively only when the surface can. -/
theorem attachSegmented_native {manifest : Url} {m : Machine W}
    (h : ((attachSegmented c manifest).run m).1 = .ok .native) : c.nativeHls m.world = true := by
  unfold attachSegmented at h
  cases hn : c.nativeHls m.world
  · cases hs : c.startEngine with
    | none => simp [hn, hs] at h
    | some start =>
      cases hr : (start manifest (c.setSource (.segmentFeed manifest) m.world)).1 <;>
        simp [hn, hs, hr] at h
  · rfl

/-- Starting the transport from a Connecting session makes a transport's move. -/
theorem startTransport_moves (request : ConnectRequest) (m : Machine W)
    (hs : m.ctl.status = .connecting) :
    TransportMove c request m.world ((startTransport c request).run m).2.ctl.status := by
  unfold startTransport
  split
  · -- Peer to peer: the signaling open fails at once or goes on in the background.
    unfold openSignaling
    split
    · rw [failSetup_status]
      exact .failed
    · simp only [StateT.run_bind, spawn_run, id_bind, pure_fst, pure_snd, updateSession_run]
      rw [hs]
      exact .pending
  · rename_i ht
    unfold startSegmented
    split
    · rw [failSetup_status]
      exact .failed
    · rename_i manifest _
      simp only [StateT.run_bind, id_bind]
      have ha := attachSegmented_ctl c manifest m
      cases hr : ((attachSegmented c manifest).run m).1 with
      | error e =>
        rw [failSetup_status]
        exact .failed
      | ok playback =>
        simp only [StateT.run_bind, spawn_run, updateSession_run, id_bind, pure_fst, pure_snd]
        by_cases hn : playback = .native
        · -- Only a native playlist marks the session Connected at once.
          subst hn
          simp only [beq_self_eq_true, if_true]
          rw [markConnected_status]
          simp only [ha, hs, if_true]
          exact .native ht (attachSegmented_native c hr)
        · simp only [hn, beq_iff_eq, if_false, StateT.run_pure, pure_snd]
          rw [ha, hs]
          exact .pending

end Act

namespace Machine

open Act Controller

variable {W : Type} (c : Collaborators W)

/-- What one turn from `m` does to the status. A turn that begins a session passes through a
Connecting state of the next generation, from which its transport starts; every other turn makes
one of the moves of `StatusMove`. -/
structure StatusTurn (m : Machine W) (input : Input) : Prop where
  /-- A session begins from a status other than Connecting, with a new generation and the
  status Connecting set together; the transport's start then moves it on. -/
  starts : m.ctl.startsSession input = true →
    m.ctl.status ≠ .connecting ∧
    ∃ k w request, m.step c input = ((startTransport c request).run ⟨k, w⟩).2 ∧
      k.status = .connecting ∧ k.generation = m.ctl.generation + 1 ∧
      TransportMove c request w (m.step c input).ctl.status
  /-- Any other turn makes a move that its input allows. -/
  moves : m.ctl.startsSession input = false → m.ctl.StatusMove input (m.step c input).ctl.status

/-- An accepted connect begins a session. -/
theorem connect_starts {m : Machine W} {request : ConnectRequest}
    (ha : m.ctl.accepts request = true) :
    m.ctl.status ≠ .connecting ∧
    ∃ k w valid, ((connect c request).run m).2 = ((startTransport c valid).run ⟨k, w⟩).2 ∧
      k.status = .connecting ∧ k.generation = m.ctl.generation + 1 ∧
      TransportMove c valid w ((connect c request).run m).2.ctl.status := by
  simp only [Controller.accepts, Bool.and_eq_true, bne_iff_ne, ne_eq] at ha
  obtain ⟨hv, hs⟩ := ha
  obtain ⟨valid, hvalid⟩ : ∃ valid, request.validated = .ok valid := by
    cases h : request.validated with
    | error field => simp [h, Except.isOk, Except.toBool] at hv
    | ok valid => exact ⟨valid, rfl⟩
  rw [connect_run_accepted c hvalid hs]
  dsimp only [pure_snd]
  have hbegun : (m.ctl.begun valid).status = .connecting := by simp [Controller.begun]
  exact ⟨hs, m.ctl.begun valid, _, valid, rfl, hbegun, Controller.begun_generation _ _,
    startTransport_moves c valid ⟨m.ctl.begun valid, _⟩ hbegun⟩

namespace StatusTurn

variable {m : Machine W} {input : Input}

/-- A turn that is a connect to `request` starts a session exactly when the request is
accepted, and otherwise leaves the status as it was. -/
theorem of_connect (request : ConnectRequest)
    (hstep : m.step c input = ((connect c request).run m).2)
    (hst : m.ctl.startsSession input = m.ctl.accepts request) : StatusTurn c m input where
  starts h := by
    rw [hstep]
    exact connect_starts c (hst.symm.trans h)
  moves h := by
    rw [hstep, connect_status_of_refused c (hst.symm.trans h)]
    exact .stay input

/-- A turn that disconnects makes the move of a disconnect. -/
theorem of_disconnect (hk : m.ctl.Consistent) (hst : m.ctl.startsSession input = false)
    (hd : m.ctl.disconnects input = true)
    (hs : (m.step c input).ctl.status = m.ctl.disconnected.status) : StatusTurn c m input where
  starts h := absurd (hst.symm.trans h) Bool.false_ne_true
  moves _ := by
    rw [hs]
    exact .of_disconnected hk hd

end StatusTurn

/-- Every turn from a reachable state moves the status as its input allows. -/
theorem reachable_statusTurn {m : Machine W} (h : Reachable c m) (input : Input) :
    StatusTurn c m input := by
  have hk := reachable_consistent c h
  by_cases hr : m.ctl.running = false
  · -- A stopped controller takes no turn.
    refine ⟨fun hs => ?_, fun _ => ?_⟩
    · cases input with
      | command cmd => cases cmd <;> simp_all [startsSession]
      | deliver e => simp_all [startsSession]
      | hangUp => simp [startsSession] at hs
    · rw [step_stopped c hr]
      exact .stay input
  have hr : m.ctl.running = true := by simpa using hr
  cases input with
  | command cmd =>
    cases cmd with
    | toggle =>
      by_cases hs : m.ctl.status.isRestartable = true
      · exact .of_connect c m.ctl.config.connectRequest
          (by simp only [step, handleCommand_toggle_restartable c hr hs])
          (by simp [startsSession, hr, hs])
      · refine .of_disconnect c hk (by simp [startsSession, hs]) (by simpa [disconnects, hr] using hs) ?_
        simp only [step, handleCommand, current_run, hr, StateT.run_bind, id_bind, pure_fst,
          pure_snd, Bool.not_true, Bool.false_eq_true, if_false, hs, StateT.run_pure, disconnect_ctl]
    | connect request =>
      exact .of_connect c request (by simp only [step, handleCommand_connect c hr])
        (by simp [startsSession, hr])
    | disconnect =>
      refine .of_disconnect c hk (by simp [startsSession]) (by simp [disconnects, hr]) ?_
      simp only [step, handleCommand, current_run, hr, StateT.run_bind, id_bind, pure_fst,
        pure_snd, Bool.not_true, Bool.false_eq_true, if_false, StateT.run_pure, disconnect_ctl]
    | playback event =>
      refine ⟨fun hst => by simp [startsSession] at hst, fun _ => ?_⟩
      simp only [step, handleCommand, current_run, hr, StateT.run_bind, id_bind, pure_fst,
        pure_snd, Bool.not_true, Bool.false_eq_true, if_false, StateT.run_pure, handlePlayback_ctl]
      split <;> exact .stay _
    | shutdown =>
      refine .of_disconnect c hk (by simp [startsSession]) (by simp [disconnects, hr]) ?_
      rw [step_ending c hr (.inr rfl), stop_ctl]
  | deliver e =>
    by_cases hg : e.generation = m.ctl.generation
    · by_cases hd : (e.kind.isReconnectDue && m.ctl.reconnectAccepted) = true
      · -- The reconnect timer connects to the pending request, which validates to itself.
        refine ⟨fun _ => ?_, fun hst => by simp [startsSession, hr, hg, hd] at hst⟩
        simp only [Bool.and_eq_true] at hd
        obtain ⟨hdue, hacc⟩ := hd
        obtain ⟨id, request, hslot⟩ : ∃ id request, m.ctl.timers.reconnect = some (id, request) := by
          cases hp : m.ctl.timers.reconnect with
          | none => simp [reconnectAccepted, hp] at hacc
          | some p => exact ⟨p.1, p.2, rfl⟩
        have hs : m.ctl.status = .disconnected := by
          simp only [reconnectAccepted, hslot, Bool.and_eq_true, beq_iff_eq] at hacc
          exact hacc.1
        have hv := (reachable_requestsValidated c h).reconnect id request hslot
        obtain ⟨k, w, heq, hks, hkg, -⟩ := onReconnectDue_connects c hslot hs hv
        have hstep : m.step c (.deliver e) = ((startTransport c request).run ⟨k, w⟩).2 := by
          simp only [step, hr, if_true]
          rw [handleEvent_current c hg, dispatch_of_isReconnectDue c hdue]
          exact heq
        refine ⟨by simp [hs], k, w, request, hstep, hks, hkg, ?_⟩
        rw [hstep]
        exact startTransport_moves c request ⟨k, w⟩ hks
      · have hd : (e.kind.isReconnectDue && m.ctl.reconnectAccepted) = false := by simpa using hd
        refine ⟨fun hst => by simp [startsSession, hr, hg, hd] at hst, fun _ => ?_⟩
        simp only [step, hr, if_true]
        rw [handleEvent_current c hg]
        exact .event hr hg (dispatch_moves c e.kind hd)
    · refine ⟨fun hst => by simp [startsSession, hg] at hst, fun _ => ?_⟩
      simp only [step, hr, if_true]
      rw [handleEvent_stale c hg]
      exact .stay _
  | hangUp =>
    refine .of_disconnect c hk (by simp [startsSession]) (by simp [disconnects, hr]) ?_
    rw [step_ending c hr (.inl rfl), stop_ctl]

/-- No turn brings the status back to Idle. -/
theorem step_status_ne_idle {m : Machine W} (h : Reachable c m) (input : Input)
    (hs : m.ctl.status ≠ .idle) : (m.step c input).ctl.status ≠ .idle := by
  have ht := reachable_statusTurn c h input
  cases hst : m.ctl.startsSession input
  · exact (ht.moves hst).ne_idle hs
  · obtain ⟨-, k, w, request, -, -, -, hmove⟩ := ht.starts hst
    exact hmove.ne_idle c

/-- Once the status left Idle it never returns there. -/
theorem run_status_ne_idle {m : Machine W} (h : Reachable c m) (inputs : List Input)
    (hs : m.ctl.status ≠ .idle) : (m.run c inputs).ctl.status ≠ .idle := by
  induction inputs generalizing m with
  | nil => exact hs
  | cons input inputs ih => exact ih (h.step input) (step_status_ne_idle c h input hs)

end Machine

end LiveViewer
