import LiveViewer.Proofs.Controller.Machine
import LiveViewer.Scenario.World

/-!
# The published snapshot is current

Observers read the controller through the snapshot it last published. `Controller.UpToDate`
says that this snapshot shows the current status, transport, figures, overlay and generation,
and `Machine.published_current` shows that it holds in every state the loop reaches: no handler
changes one of these fields without publishing before it returns.

The fields change in a dozen places, and some of the changes happen inside helpers whose callers
publish later (a release resets the figures, a connect that cannot start its transport ends the
session it just began). The proof goes by the controller functions of `Effects.lean`: an ended,
a disconnected and a begun session and a session marked connected all end with a publish
(`publishNow`), and the rest of the controller (the log book, the live session, the timers, the
sampler) is not part of the snapshot. Each handler is then a short chain over these, taken from
its first step to its last.
-/

namespace LiveViewer

namespace Controller

/-- Observers see the current fields: the snapshot last published is the one they make now. -/
def UpToDate (k : Controller) : Prop := k.published = k.snapshot

/-- The snapshot reads the status, the transport, the figures, the overlay and the generation
only: a change that keeps these and the published snapshot keeps the controller up to date. -/
theorem UpToDate.of_snapshot {k k' : Controller} (h : k.UpToDate)
    (hs : k'.snapshot = k.snapshot) (hp : k'.published = k.published) : k'.UpToDate := by
  unfold UpToDate at *
  rw [hp, hs, h]

theorem publishNow_upToDate (k : Controller) : k.publishNow.UpToDate := rfl

theorem UpToDate.logged {k : Controller} (h : k.UpToDate) (level : Level) (message : String) :
    (k.logged level message).UpToDate :=
  h

/-- Changing the live session keeps the controller up to date: the snapshot does not show it. -/
theorem UpToDate.mapSession {k : Controller} (h : k.UpToDate) (f : ActiveSession → ActiveSession) :
    { k with session := k.session.map f }.UpToDate :=
  h

theorem ended_upToDate (k : Controller) : k.ended.UpToDate := rfl

theorem disconnected_upToDate (k : Controller) : k.disconnected.UpToDate := by
  unfold disconnected
  split
  · split <;> rfl
  · rfl

/-- A begun session is published before its log entry is written. -/
theorem begun_upToDate (k : Controller) (request : ConnectRequest) : (k.begun request).UpToDate :=
  rfl

end Controller

namespace Act

open Controller

variable {W : Type} (c : Collaborators W) {m : Machine W}

/-! ## Ending and starting sessions -/

theorem endSession_upToDate (m : Machine W) : ((endSession c).run m).2.ctl.UpToDate := by
  rw [endSession_ctl]
  exact ended_upToDate _

theorem failSetup_upToDate (e : ViewerError) (m : Machine W) :
    ((failSetup c e).run m).2.ctl.UpToDate := by
  rw [failSetup_ctl]
  exact ended_upToDate _

theorem disconnect_upToDate (m : Machine W) : ((disconnect c).run m).2.ctl.UpToDate := by
  rw [disconnect_ctl]
  exact disconnected_upToDate _

theorem markConnected_upToDate (h : m.ctl.UpToDate) :
    ((markConnected c).run m).2.ctl.UpToDate := by
  by_cases hs : m.ctl.status = .connecting
  · obtain ⟨viewer, he⟩ := markConnected_ctl c hs
    rw [he]
    exact publishNow_upToDate _
  · rw [markConnected_of_ne c hs]
    exact h

/-- A transport failure publishes the ended session; scheduling the reconnect afterwards only
fills a timer. -/
theorem transportFailure_upToDate (state : PeerState) (m : Machine W) :
    ((transportFailure c state).run m).2.ctl.UpToDate := by
  obtain ⟨id, he⟩ := transportFailure_ctl c state m
  rw [he]
  dsimp only
  split
  · exact ended_upToDate _
  · exact ended_upToDate _

theorem openSignaling_upToDate (request : ConnectRequest) (h : m.ctl.UpToDate) :
    ((openSignaling c request).run m).2.ctl.UpToDate := by
  unfold openSignaling
  cases signalingUrl request.serverEndpoint with
  | error e => exact failSetup_upToDate c _ m
  | ok url =>
    simp only [StateT.run_bind, spawn_run, id_bind, pure_fst, pure_snd, updateSession_run]
    exact h.mapSession _

theorem startSegmented_upToDate (request : ConnectRequest) (h : m.ctl.UpToDate) :
    ((startSegmented c request).run m).2.ctl.UpToDate := by
  unfold startSegmented
  cases manifestUrl request.serverEndpoint request.streamKey with
  | error e => exact failSetup_upToDate c _ m
  | ok manifest =>
    simp only [StateT.run_bind, id_bind]
    -- Binding the playlist acts on the world only.
    have ha := attachSegmented_ctl c manifest m
    generalize ((attachSegmented c manifest).run m).2 = m₁ at ha ⊢
    cases ((attachSegmented c manifest).run m).1 with
    | error e => exact failSetup_upToDate c _ m₁
    | ok playback =>
      simp only [StateT.run_bind, spawn_run, updateSession_run, id_bind, pure_fst, pure_snd]
      have h₁ : m₁.ctl.UpToDate := ha ▸ h
      by_cases hn : playback = .native
      · subst hn
        simp only [beq_self_eq_true, if_true]
        exact markConnected_upToDate c (h₁.mapSession _)
      · simp only [hn, beq_iff_eq, if_false, StateT.run_pure, pure_snd]
        exact h₁.mapSession _

theorem startTransport_upToDate (request : ConnectRequest) (h : m.ctl.UpToDate) :
    ((startTransport c request).run m).2.ctl.UpToDate := by
  unfold startTransport
  split
  · exact openSignaling_upToDate c request h
  · exact startSegmented_upToDate c request h

theorem connect_upToDate (request : ConnectRequest) (h : m.ctl.UpToDate) :
    ((connect c request).run m).2.ctl.UpToDate := by
  cases hv : request.validated with
  | error field =>
    rw [connect_run_invalid c hv]
    exact h.logged _ _
  | ok valid =>
    by_cases hs : m.ctl.status = .connecting
    · rw [connect_run_busy c hv hs]
      exact h
    · -- The transport starts from the begun session, which was published.
      rw [connect_run_accepted c hv hs]
      exact startTransport_upToDate c valid (begun_upToDate _ _)

theorem startNegotiation_upToDate (h : m.ctl.UpToDate) :
    ((startNegotiation c).run m).2.ctl.UpToDate := by
  rcases startNegotiation_ctl c m with he | ⟨peer, pump, he⟩
  · rw [he]
    exact h
  · rw [he]
    exact h.mapSession _

/-! ## Commands -/

theorem handlePlayback_upToDate (event : PlaybackEvent) (m : Machine W) :
    ((handlePlayback c event).run m).2.ctl.UpToDate := by
  rw [handlePlayback_ctl]
  exact publishNow_upToDate _

theorem handleCommand_upToDate (cmd : Command) (h : m.ctl.UpToDate) :
    ((handleCommand c cmd).run m).2.ctl.UpToDate := by
  unfold handleCommand
  simp only [StateT.run_bind, current_run, id_bind, pure_fst, pure_snd]
  split
  · -- A stopped controller refuses every command and changes nothing.
    exact h
  · cases cmd with
    | toggle =>
      simp only [StateT.run_bind, current_run, id_bind, pure_fst, pure_snd]
      split
      · exact connect_upToDate c _ h
      · simp only [StateT.run_bind, StateT.run_pure, id_bind, pure_snd]
        exact disconnect_upToDate c m
    | connect request =>
      dsimp only
      exact connect_upToDate c request h
    | disconnect =>
      simp only [StateT.run_bind, StateT.run_pure, id_bind, pure_snd]
      exact disconnect_upToDate c m
    | playback event =>
      simp only [StateT.run_bind, StateT.run_pure, id_bind, pure_snd]
      exact handlePlayback_upToDate c event m
    | shutdown =>
      -- Stopping only clears the running flag after the disconnect, which published.
      simp only [StateT.run_bind, StateT.run_pure, id_bind, pure_snd, stop_ctl]
      exact disconnected_upToDate _

/-! ## Events -/

theorem onPeerState_upToDate (state : PeerState) (h : m.ctl.UpToDate) :
    ((onPeerState c state).run m).2.ctl.UpToDate := by
  unfold onPeerState
  cases state with
  | connected =>
    simp only [StateT.run_bind, id_bind]
    -- Starting the stats timer changes the timers and the sampler, not the figures.
    have hc := markConnected_upToDate c h
    rw [startStatsSampler_ctl]
    split
    · exact hc
    · exact hc
  | failed | disconnected =>
    simp only [StateT.run_bind, current_run, id_bind, pure_fst, pure_snd]
    split
    · exact transportFailure_upToDate c _ m
    · exact failSetup_upToDate c _ m
    · exact h
  | new | connecting | closed => exact h

theorem onPeerEvent_upToDate (e : PeerEvent) (h : m.ctl.UpToDate) :
    ((onPeerEvent c e).run m).2.ctl.UpToDate := by
  unfold onPeerEvent
  cases e with
  | track stream =>
    simp only [StateT.run_bind, current_run, id_bind, pure_fst, pure_snd]
    split
    · split
      · simp only [StateT.run_bind, updateSession_run, touch_run, id_bind, pure_snd]
        exact markConnected_upToDate c (h.mapSession _)
      · split
        · simp only [StateT.run_bind, touch_run, id_bind, pure_snd]
          exact markConnected_upToDate c h
        · exact markConnected_upToDate c h
    · exact h
  | localCandidate candidate sdpMid sdpMLineIndex =>
    rw [sendSignal_ctl]
    exact h
  | stateChanged state => exact onPeerState_upToDate c state h

theorem onEngineEvent_upToDate (e : EngineEvent) (h : m.ctl.UpToDate) :
    ((onEngineEvent c e).run m).2.ctl.UpToDate := by
  unfold onEngineEvent
  cases e with
  | manifestParsed => exact markConnected_upToDate c h
  | error message =>
    simp only [StateT.run_bind, current_run, id_bind, pure_fst, pure_snd]
    split
    · exact failSetup_upToDate c _ m
    · exact h.logged _ _
  | ended => exact h.logged _ _

theorem dispatchSignal_upToDate (msg : SignalMessage) (h : m.ctl.UpToDate) :
    ((dispatchSignal c msg).run m).2.ctl.UpToDate := by
  unfold dispatchSignal
  cases msg with
  | answer sdp =>
    simp only [StateT.run_bind, current_run, id_bind, pure_fst, pure_snd]
    split
    · simp only [StateT.run_bind, ask_run, id_bind, pure_fst, pure_snd]
      split
      · exact h
      · simp only [StateT.run_bind, current_run, id_bind, pure_fst, pure_snd]
        split
        · exact failSetup_upToDate c _ _
        · exact h.logged _ _
    · exact h
  | iceCandidate candidate sdpMid sdpMLineIndex =>
    simp only [StateT.run_bind, current_run, id_bind, pure_fst, pure_snd]
    split
    · simp only [StateT.run_bind, ask_run, id_bind, pure_fst, pure_snd]
      split
      · exact h
      · exact h.logged _ _
    · exact h
  | error message => exact h.logged _ _
  | offer => exact h.logged _ _

theorem onSignalingClosed_upToDate (h : m.ctl.UpToDate) :
    ((onSignalingClosed c).run m).2.ctl.UpToDate := by
  unfold onSignalingClosed
  simp only [StateT.run_bind, current_run, id_bind, pure_fst, pure_snd]
  split
  · split
    all_goals
      simp only [StateT.run_bind, touch_run, updateSession_run, log_run, current_run, id_bind,
        pure_fst, pure_snd]
      split
      · exact endSession_upToDate c _
      · exact (h.mapSession _).logged _ _
  · simp only [StateT.run_bind, log_run, current_run, id_bind, pure_fst, pure_snd]
    split
    · exact endSession_upToDate c _
    · exact h.logged _ _

theorem onLinkEvent_upToDate (e : LinkEvent) (h : m.ctl.UpToDate) :
    ((onLinkEvent c e).run m).2.ctl.UpToDate := by
  unfold onLinkEvent
  cases e with
  | text raw =>
    dsimp only
    split
    · exact dispatchSignal_upToDate c _ h
    · exact h.logged _ _
  | binary length => exact h.logged _ _
  | error message => exact h.logged _ _
  | closed => exact onSignalingClosed_upToDate c h

theorem onSignalingOpened_upToDate (url : Url) (result : Except SignalingError Nat)
    (h : m.ctl.UpToDate) : ((onSignalingOpened c url result).run m).2.ctl.UpToDate := by
  unfold onSignalingOpened
  simp only [StateT.run_bind, current_run, id_bind, pure_fst, pure_snd]
  split
  · split <;> simp only [StateT.run_bind, touch_run, id_bind, StateT.run_pure, pure_snd] <;>
      exact h
  · split
    · simp only [StateT.run_bind, log_run, id_bind, pure_snd]
      exact endSession_upToDate c _
    · rename_i link
      simp only [StateT.run_bind, log_run, spawn_run, current_run, id_bind, pure_fst, pure_snd]
      -- The link joins the session, which the snapshot does not show.
      have h₁ : ∀ pump : Nat,
          ({ m.ctl.logged .info ("Signaling connected to " ++ url.text) with
            session := m.ctl.session.map (fun s : ActiveSession =>
              { s with signaling := some (link, { url }), tasks := s.tasks ++ [pump] }) }).UpToDate :=
        fun _ => (h.logged _ _).mapSession _
      split
      all_goals
        simp only [StateT.run_bind, touch_run, updateSession_run, id_bind, pure_snd]
        split
        · exact failSetup_upToDate c _ _
        · exact startNegotiation_upToDate c (h₁ _)

theorem onReconnectDue_upToDate (h : m.ctl.UpToDate) :
    ((onReconnectDue c).run m).2.ctl.UpToDate := by
  unfold onReconnectDue
  simp only [StateT.run_bind, current_run, id_bind, pure_fst, pure_snd]
  split
  · -- The reconnect is taken out of its slot, which the snapshot does not show.
    have h₁ : ({ m.ctl with timers := { m.ctl.timers with reconnect := none } }).UpToDate := h
    simp only [StateT.run_bind, updateTimers_run, current_run, id_bind, pure_fst, pure_snd]
    split
    · exact h₁
    · simp only [StateT.run_bind, log_run, id_bind, pure_snd]
      split
      · simp only [log_run, pure_snd]
        exact (@connect_upToDate W c ⟨_, _⟩ _ (h₁.logged _ _)).logged _ _
      · simp only [StateT.run_pure, pure_snd]
        exact @connect_upToDate W c ⟨_, _⟩ _ (h₁.logged _ _)
  · exact h

theorem onStatsReport_upToDate (report : Option InboundReport) (h : m.ctl.UpToDate) :
    ((onStatsReport report : Act W Unit).run m).2.ctl.UpToDate := by
  rw [onStatsReport_ctl]
  split
  · exact publishNow_upToDate _
  · exact h

theorem onViewerCount_upToDate (result : Except String UInt32) (h : m.ctl.UpToDate) :
    ((onViewerCount result : Act W Unit).run m).2.ctl.UpToDate := by
  rw [onViewerCount_ctl]
  split
  · exact publishNow_upToDate _
  · exact h

theorem handleEvent_upToDate (e : SessionEvent) (h : m.ctl.UpToDate) :
    ((handleEvent c e).run m).2.ctl.UpToDate := by
  unfold handleEvent
  simp only [StateT.run_bind, current_run, id_bind, pure_fst, pure_snd]
  split
  · -- An event of another generation at most gives up the link it brought.
    split <;> simp only [StateT.run_bind, touch_run, id_bind, StateT.run_pure, pure_snd] <;>
      exact h
  · split
    · exact onSignalingOpened_upToDate c _ _ h
    · exact onLinkEvent_upToDate c _ h
    · exact onPeerEvent_upToDate c _ h
    · exact onEngineEvent_upToDate c _ h
    · exact onStatsReport_upToDate _ h
    · exact onViewerCount_upToDate _ h
    · exact onReconnectDue_upToDate c h

end Act

namespace Machine

open Controller

variable {W : Type} (c : Collaborators W)

/-- One turn of the loop leaves the published snapshot current, whatever it takes. -/
theorem step_upToDate {m : Machine W} (h : m.ctl.UpToDate) (input : Input) :
    (m.step c input).ctl.UpToDate := by
  cases input with
  | command cmd => exact Act.handleCommand_upToDate c cmd h
  | deliver event =>
    dsimp only [step]
    split
    · exact Act.handleEvent_upToDate c event h
    · exact h
  | hangUp =>
    dsimp only [step]
    split
    · rw [Act.stop_ctl]
      exact disconnected_upToDate _
    · exact h

/-- After every turn of the loop, whatever the commands, the events and the collaborators'
answers, the snapshot last published shows the current status, transport, figures, overlay and
generation, with the control that goes with the status. -/
theorem published_current {m : Machine W} (h : Reachable c m) :
    m.ctl.published =
        { status := m.ctl.status, transport := m.ctl.transport, stats := m.ctl.stats,
          overlay := m.ctl.overlay, generation := m.ctl.generation } ∧
      m.ctl.published.affordance = Affordance.ofStatus m.ctl.status := by
  have hu : m.ctl.UpToDate := by
    induction h with
    | start config world => rfl
    | step input _ ih => exact step_upToDate c ih input
  exact ⟨hu, by rw [hu]; rfl⟩

/-- In the recording world, a connect to a stream and the first event after it leave the
published snapshot current. -/
theorem connect_then_event_published :
    let c := Scenario.World.collaborators true true
    let m := ((start default {}).step c
      (.command (.connect ⟨"live", "localhost:8080", .peerToPeer⟩))).step c
        (.deliver ⟨1, .reconnectDue⟩)
    Reachable c m ∧ m.ctl.published = m.ctl.snapshot ∧
      m.ctl.published.affordance = Affordance.ofStatus m.ctl.status :=
  let h := Reachable.step _ (.step _ (.start _ _))
  ⟨h, (published_current _ h).1, (published_current _ h).2⟩

end Machine

end LiveViewer
