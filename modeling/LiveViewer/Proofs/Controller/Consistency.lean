import LiveViewer.Proofs.Controller.Machine
import LiveViewer.Scenario.World

/-!
# The controller's state stays consistent

Status, transport, generation, the live session and the three timers are changed by some twenty
handlers, several of which call each other half way (a connect that fails to start its transport
ends the session it just began). `Controller.Consistent` states how these fields hang together,
and `reachable_consistent` shows that every state the controller loop reaches satisfies it,
whatever the commands, the events and the collaborators' answers:

* a session is live exactly while the status is Connecting or Connected;
* the live session belongs to the current generation, and the transport shown is its own;
* no transport is shown exactly while the status is Idle;
* the stats timer runs only for a connected peer-to-peer session that has a peer;
* the viewer-count timer runs only while connected;
* a reconnect is pending only while disconnected.

The proof goes by the shapes of the controller functions of `Effects.lean`: a session that ended
(`ended_consistent`) or was disconnected (`disconnected_consistent`) leaves a consistent state
behind, a begun session is consistent from any state (`begun_consistent`), and marking it
connected keeps it so (`connected_consistent`). Each handler is then a short case analysis over
these, and `step_consistent` covers one turn of the loop.
-/

namespace LiveViewer

namespace Controller

/-- How the status, the transport, the live session and the timers hang together. -/
structure Consistent (k : Controller) : Prop where
  /-- A session is live exactly while the status is Connecting or Connected. -/
  session_iff : k.session.isSome ↔ k.status = .connecting ∨ k.status = .connected
  /-- The live session belongs to the current generation, and the transport is its own. -/
  session_current : ∀ s, k.session = some s →
    s.generation = k.generation ∧ k.transport = some s.request.transport
  /-- No transport is shown exactly while idle. -/
  idle_iff : k.status = .idle ↔ k.transport = none
  /-- The stats timer runs only for a connected peer-to-peer session that has a peer. -/
  stats_timer : k.timers.stats.isSome →
    k.status = .connected ∧ k.transport = some .peerToPeer ∧ (k.session.bind (·.peer)).isSome
  /-- The viewer-count timer runs only while connected. -/
  viewer_timer : k.timers.viewerCount.isSome → k.status = .connected
  /-- A reconnect is pending only while disconnected. -/
  reconnect_timer : k.timers.reconnect.isSome → k.status = .disconnected

/-- A fresh controller is consistent. -/
theorem start_consistent (config : ViewerConfig) : (start config).Consistent where
  session_iff := by simp [start]
  session_current := by simp [start]
  idle_iff := by simp [start]
  stats_timer := by simp [start]
  viewer_timer := by simp [start]
  reconnect_timer := by simp [start]

/-- A session that ended leaves a consistent controller behind, from any state that shows a
transport. -/
theorem ended_consistent {k : Controller} (h : k.transport ≠ none) : k.ended.Consistent where
  session_iff := by simp [ended]
  session_current := by simp [ended]
  idle_iff := by simp [ended, h]
  stats_timer := by simp [ended]
  viewer_timer := by simp [ended]
  reconnect_timer := by simp [ended]

/-- Consistency reads only the status, the transport, the generation, the session and the
timers: a change of anything else keeps it. -/
theorem Consistent.of_core {k k' : Controller} (hk : k.Consistent) (hs : k'.status = k.status)
    (ht : k'.transport = k.transport) (hg : k'.generation = k.generation)
    (hss : k'.session = k.session) (htm : k'.timers = k.timers) : k'.Consistent where
  session_iff := by rw [hss, hs]; exact hk.session_iff
  session_current := by rw [hss, hg, ht]; exact hk.session_current
  idle_iff := by rw [hs, ht]; exact hk.idle_iff
  stats_timer := by rw [htm, hs, ht, hss]; exact hk.stats_timer
  viewer_timer := by rw [htm, hs]; exact hk.viewer_timer
  reconnect_timer := by rw [htm, hs]; exact hk.reconnect_timer

theorem Consistent.logged {k : Controller} (hk : k.Consistent) (level : Level) (message : String) :
    (k.logged level message).Consistent :=
  hk.of_core rfl rfl rfl rfl rfl

theorem Consistent.publishNow {k : Controller} (hk : k.Consistent) : k.publishNow.Consistent :=
  hk.of_core rfl rfl rfl rfl rfl

/-- A connected or connecting controller shows a transport. -/
theorem Consistent.transport_ne_none {k : Controller} (hk : k.Consistent)
    (h : k.status ≠ .idle) : k.transport ≠ none :=
  fun ht => h (hk.idle_iff.2 ht)

theorem Consistent.transport_of_live {k : Controller} (hk : k.Consistent)
    (h : k.status = .connecting ∨ k.status = .connected) : k.transport ≠ none :=
  hk.transport_ne_none (by rcases h with h | h <;> simp [h])

/-- A disconnect leaves a consistent controller consistent. -/
theorem disconnected_consistent {k : Controller} (hk : k.Consistent) :
    k.disconnected.Consistent := by
  unfold disconnected
  cases hs : k.session with
  | none =>
    -- Without a session the status is Idle or Disconnected; Idle stays, with no transport.
    have hlive : ¬(k.status = .connecting ∨ k.status = .connected) := by
      rw [← hk.session_iff, hs]; simp
    by_cases hi : k.status = .idle
    · have ht : k.transport = none := hk.idle_iff.1 hi
      constructor <;> simp [hs, hi, ht]
    · have ht := hk.transport_ne_none hi
      constructor <;> simp [hs, hi, ht]
  | some s =>
    have ht : k.transport = some s.request.transport := (hk.session_current s hs).2
    constructor <;> simp [released, hs, ht]

/-- A begun session is consistent, whatever came before. -/
theorem begun_consistent (k : Controller) (request : ConnectRequest) :
    (k.begun request).Consistent where
  session_iff := by simp [begun]
  session_current := by simp [begun]
  idle_iff := by simp [begun]
  stats_timer := by simp [begun]
  viewer_timer := by simp [begun]
  reconnect_timer := by simp [begun]

/-- A connecting session that becomes Connected keeps the controller consistent, whichever
viewer-count timer it starts. -/
theorem connected_consistent {k : Controller} (hk : k.Consistent) (hs : k.status = .connecting)
    (viewer : Option Nat) :
    ({ k with
      status := .connected
      overlay := none
      timers := { k.timers with viewerCount := viewer } }.logged .info "Connected").publishNow.Consistent := by
  -- While connecting neither the stats timer nor a reconnect can be pending.
  have hstats : k.timers.stats = none := by
    cases h : k.timers.stats
    · rfl
    · have := (hk.stats_timer (by simp [h])).1; simp_all
  have hre : k.timers.reconnect = none := by
    cases h : k.timers.reconnect
    · rfl
    · have := hk.reconnect_timer (by simp [h]); simp_all
  constructor
  · simp [hk.session_iff, hs]
  · simpa using hk.session_current
  · simp [← hk.idle_iff, hs]
  · simp [hstats]
  · simp
  · simp [hre]

/-- Changing the live session in a way that keeps its generation, its request and its peer
keeps the controller consistent. -/
theorem Consistent.mapSession {k : Controller} (hk : k.Consistent)
    (f : ActiveSession → ActiveSession) (hg : ∀ s, (f s).generation = s.generation)
    (hr : ∀ s, (f s).request = s.request) (hp : ∀ s, s.peer.isSome → (f s).peer.isSome) :
    ({ k with session := k.session.map f }).Consistent where
  session_iff := by simpa using hk.session_iff
  session_current := by
    intro s' hs'
    obtain ⟨s, hs, rfl⟩ := Option.map_eq_some_iff.1 hs'
    simpa [hg, hr] using hk.session_current s hs
  idle_iff := hk.idle_iff
  stats_timer := by
    intro h
    obtain ⟨h1, h2, h3⟩ := hk.stats_timer h
    refine ⟨h1, h2, ?_⟩
    cases hs : k.session with
    | none => simp [hs] at h3
    | some s => simpa [hs] using hp s (by simpa [hs] using h3)
  viewer_timer := hk.viewer_timer
  reconnect_timer := hk.reconnect_timer

/-- Changing the reconnect slot keeps the controller consistent, as long as a reconnect is left
pending only while disconnected. -/
theorem Consistent.withReconnect {k : Controller} (hk : k.Consistent)
    (reconnect : Option (Nat × ConnectRequest)) (hd : reconnect.isSome → k.status = .disconnected) :
    { k with timers := { k.timers with reconnect } }.Consistent where
  session_iff := hk.session_iff
  session_current := hk.session_current
  idle_iff := hk.idle_iff
  stats_timer := hk.stats_timer
  viewer_timer := hk.viewer_timer
  reconnect_timer := hd

end Controller

namespace Act

open Controller

variable {W : Type} (c : Collaborators W)

/-! ## Ending and starting sessions -/

theorem endSession_consistent {m : Machine W} (ht : m.ctl.transport ≠ none) :
    ((endSession c).run m).2.ctl.Consistent := by
  rw [endSession_ctl]
  exact ended_consistent ht

theorem failSetup_consistent (e : ViewerError) {m : Machine W} (ht : m.ctl.transport ≠ none) :
    ((failSetup c e).run m).2.ctl.Consistent := by
  rw [failSetup_ctl]
  exact ended_consistent (by simpa using ht)

theorem markConnected_consistent {m : Machine W} (hk : m.ctl.Consistent) :
    ((markConnected c).run m).2.ctl.Consistent := by
  by_cases hs : m.ctl.status = .connecting
  · obtain ⟨viewer, h⟩ := markConnected_ctl c hs
    rw [h]
    exact connected_consistent hk hs viewer
  · rw [markConnected_of_ne c hs]
    exact hk

theorem openSignaling_consistent (request : ConnectRequest) {m : Machine W}
    (hk : m.ctl.Consistent) (ht : m.ctl.transport ≠ none) :
    ((openSignaling c request).run m).2.ctl.Consistent := by
  unfold openSignaling
  cases h : signalingUrl request.serverEndpoint with
  | error e => exact failSetup_consistent c _ ht
  | ok url =>
    simp only [StateT.run_bind, spawn_run, id_bind, pure_fst, pure_snd, updateSession_run]
    exact hk.mapSession _ (fun _ => rfl) (fun _ => rfl) (fun _ h => h)

theorem startSegmented_consistent (request : ConnectRequest) {m : Machine W}
    (hk : m.ctl.Consistent) (ht : m.ctl.transport ≠ none) :
    ((startSegmented c request).run m).2.ctl.Consistent := by
  unfold startSegmented
  cases h : manifestUrl request.serverEndpoint request.streamKey with
  | error e => exact failSetup_consistent c _ ht
  | ok manifest =>
    simp only [StateT.run_bind, id_bind]
    -- Binding the playlist acts on the world only.
    have ha := attachSegmented_ctl c manifest m
    generalize ((attachSegmented c manifest).run m).2 = m₁ at ha ⊢
    cases ((attachSegmented c manifest).run m).1 with
    | error e => exact failSetup_consistent c _ (by rw [ha]; exact ht)
    | ok playback =>
      simp only [StateT.run_bind, spawn_run, updateSession_run, id_bind, pure_fst, pure_snd]
      have hk₁ : ∀ pump : Nat,
          ({ m₁.ctl with session := m₁.ctl.session.map (fun s : ActiveSession =>
            { s with playback := some playback, tasks := s.tasks ++ [pump] }) }).Consistent := fun _ =>
        (ha ▸ hk).mapSession _ (fun _ => rfl) (fun _ => rfl) (fun _ h => h)
      by_cases hn : playback = .native
      · subst hn
        simp only [beq_self_eq_true, if_true]
        exact markConnected_consistent c (hk₁ _)
      · simp only [hn, beq_iff_eq, if_false, StateT.run_pure, pure_snd]
        exact hk₁ _

theorem startTransport_consistent (request : ConnectRequest) {m : Machine W}
    (hk : m.ctl.Consistent) (ht : m.ctl.transport ≠ none) :
    ((startTransport c request).run m).2.ctl.Consistent := by
  unfold startTransport
  split
  · exact openSignaling_consistent c request hk ht
  · exact startSegmented_consistent c request hk ht

theorem connect_consistent (request : ConnectRequest) {m : Machine W} (hk : m.ctl.Consistent) :
    ((connect c request).run m).2.ctl.Consistent := by
  cases hv : request.validated with
  | error field =>
    rw [connect_run_invalid c hv]
    exact hk.logged _ _
  | ok valid =>
    by_cases hs : m.ctl.status = .connecting
    · rw [connect_run_busy c hv hs]
      exact hk
    · -- The begun session shows its transport, so a failing start can end it.
      rw [connect_run_accepted c hv hs]
      exact startTransport_consistent c valid (begun_consistent _ _) (by simp [begun])

/-- After marking connected the status is never Connecting. -/
theorem markConnected_status_ne (m : Machine W) :
    ((markConnected c).run m).2.ctl.status ≠ .connecting := by
  by_cases hs : m.ctl.status = .connecting
  · obtain ⟨viewer, h⟩ := markConnected_ctl c hs
    simp [h]
  · rw [markConnected_of_ne c hs]
    exact hs

/-- The stats timer starts only past Connecting: a session with a peer is then Connected. -/
theorem startStatsSampler_consistent {m : Machine W} (hk : m.ctl.Consistent)
    (hs : m.ctl.status ≠ .connecting) : ((startStatsSampler c).run m).2.ctl.Consistent := by
  rw [startStatsSampler_ctl]
  split
  · rename_i ht hp
    have hlive : m.ctl.session.isSome := by
      cases h : m.ctl.session <;> simp_all
    have hc : m.ctl.status = .connected := (hk.session_iff.1 hlive).resolve_left hs
    exact
      { session_iff := hk.session_iff
        session_current := hk.session_current
        idle_iff := hk.idle_iff
        stats_timer := fun _ => ⟨hc, ht, by simp [hp]⟩
        viewer_timer := hk.viewer_timer
        reconnect_timer := hk.reconnect_timer }
  · exact hk

/-- A connected session that fails ends, and its reconnect waits in a disconnected state. -/
theorem transportFailure_consistent (state : PeerState) {m : Machine W} (hk : m.ctl.Consistent)
    (hs : m.ctl.status = .connected) : ((transportFailure c state).run m).2.ctl.Consistent := by
  obtain ⟨id, h⟩ := transportFailure_ctl c state m
  have ht : m.ctl.transport ≠ none := hk.transport_ne_none (by simp [hs])
  have hended := ended_consistent (k := m.ctl.logged .error
    (ViewerError.transport ("peer connection " ++ state.label)).message) (by simpa using ht)
  rw [h]
  dsimp only
  split
  · exact hended
  · exact (hended.logged _ _).withReconnect _ (fun _ => by simp [ended])

/-- Negotiation keeps the controller consistent. -/
theorem startNegotiation_consistent {m : Machine W} (hk : m.ctl.Consistent) :
    ((startNegotiation c).run m).2.ctl.Consistent := by
  rcases startNegotiation_ctl c m with h | ⟨peer, pump, h⟩
  · rw [h]
    exact hk
  · rw [h]
    exact hk.mapSession _ (fun _ => rfl) (fun _ => rfl) (fun _ _ => rfl)

theorem startNegotiation_status (m : Machine W) :
    ((startNegotiation c).run m).2.ctl.status = m.ctl.status := by
  rcases startNegotiation_ctl c m with h | ⟨peer, pump, h⟩ <;> rw [h]

/-! ## Commands -/

theorem handlePlayback_consistent (event : PlaybackEvent) {m : Machine W}
    (hk : m.ctl.Consistent) : ((handlePlayback c event).run m).2.ctl.Consistent := by
  rw [handlePlayback_ctl]
  cases event <;> exact hk.of_core rfl rfl rfl rfl rfl

theorem handleCommand_consistent (cmd : Command) {m : Machine W} (hk : m.ctl.Consistent) :
    ((handleCommand c cmd).run m).2.ctl.Consistent := by
  unfold handleCommand
  simp only [StateT.run_bind, current_run, id_bind, pure_fst, pure_snd]
  split
  · -- A stopped controller refuses every command.
    exact hk
  · cases cmd with
    | toggle =>
      simp only [StateT.run_bind, current_run, id_bind, pure_fst, pure_snd]
      split
      · exact connect_consistent c _ hk
      · simp only [StateT.run_bind, StateT.run_pure, id_bind, pure_snd, disconnect_ctl]
        exact disconnected_consistent hk
    | connect request =>
      dsimp only
      exact connect_consistent c request hk
    | disconnect =>
      simp only [StateT.run_bind, StateT.run_pure, id_bind, pure_snd, disconnect_ctl]
      exact disconnected_consistent hk
    | playback event =>
      simp only [StateT.run_bind, StateT.run_pure, id_bind, pure_snd]
      exact handlePlayback_consistent c event hk
    | shutdown =>
      simp only [StateT.run_bind, StateT.run_pure, id_bind, pure_snd, stop_ctl]
      exact (disconnected_consistent hk).of_core rfl rfl rfl rfl rfl

/-! ## Events -/

theorem onPeerState_consistent (state : PeerState) {m : Machine W} (hk : m.ctl.Consistent) :
    ((onPeerState c state).run m).2.ctl.Consistent := by
  unfold onPeerState
  cases state with
  | connected =>
    simp only [StateT.run_bind, id_bind]
    exact startStatsSampler_consistent c (markConnected_consistent c hk)
      (markConnected_status_ne c m)
  | failed | disconnected =>
    simp only [StateT.run_bind, current_run, id_bind, pure_fst, pure_snd]
    split
    · exact transportFailure_consistent c _ hk ‹_›
    · exact failSetup_consistent c _ (hk.transport_ne_none (by simp [‹_›]))
    · exact hk
  | new | connecting | closed => exact hk

theorem onEngineEvent_consistent (e : EngineEvent) {m : Machine W} (hk : m.ctl.Consistent) :
    ((onEngineEvent c e).run m).2.ctl.Consistent := by
  unfold onEngineEvent
  cases e with
  | manifestParsed => exact markConnected_consistent c hk
  | error message =>
    simp only [StateT.run_bind, current_run, id_bind, pure_fst, pure_snd]
    split
    · exact failSetup_consistent c _ (hk.transport_ne_none (by simp_all))
    · exact hk.logged _ _
  | ended => exact hk.logged _ _

theorem onPeerEvent_consistent (e : PeerEvent) {m : Machine W} (hk : m.ctl.Consistent) :
    ((onPeerEvent c e).run m).2.ctl.Consistent := by
  unfold onPeerEvent
  cases e with
  | track stream =>
    simp only [StateT.run_bind, current_run, id_bind, pure_fst, pure_snd]
    split
    · -- The first track binds its stream; later ones only reach the surface.
      split
      · simp only [StateT.run_bind, updateSession_run, touch_run, id_bind, pure_snd]
        exact markConnected_consistent c (hk.mapSession _ (fun _ => rfl) (fun _ => rfl) (fun _ h => h))
      · split
        · simp only [StateT.run_bind, touch_run, id_bind, pure_snd]
          exact markConnected_consistent c hk
        · exact markConnected_consistent c hk
    · exact hk
  | localCandidate candidate sdpMid sdpMLineIndex =>
    rw [sendSignal_ctl]
    exact hk
  | stateChanged state => exact onPeerState_consistent c state hk

theorem dispatchSignal_consistent (msg : SignalMessage) {m : Machine W} (hk : m.ctl.Consistent) :
    ((dispatchSignal c msg).run m).2.ctl.Consistent := by
  unfold dispatchSignal
  cases msg with
  | answer sdp =>
    simp only [StateT.run_bind, current_run, id_bind, pure_fst, pure_snd]
    split
    · simp only [StateT.run_bind, ask_run, id_bind, pure_fst, pure_snd]
      split
      · exact hk
      · -- A refused answer ends a session that is still being set up.
        simp only [StateT.run_bind, current_run, id_bind, pure_fst, pure_snd]
        split
        · exact failSetup_consistent c _ (hk.transport_ne_none (by simp_all))
        · exact hk.logged _ _
    · exact hk
  | iceCandidate candidate sdpMid sdpMLineIndex =>
    simp only [StateT.run_bind, current_run, id_bind, pure_fst, pure_snd]
    split
    · simp only [StateT.run_bind, ask_run, id_bind, pure_fst, pure_snd]
      split
      · exact hk
      · exact hk.logged _ _
    · exact hk
  | error message => exact hk.logged _ _
  | offer => exact hk.logged _ _

theorem onSignalingClosed_consistent {m : Machine W} (hk : m.ctl.Consistent) :
    ((onSignalingClosed c).run m).2.ctl.Consistent := by
  unfold onSignalingClosed
  simp only [StateT.run_bind, current_run, id_bind, pure_fst, pure_snd]
  -- Marking the channel closed keeps the session's generation, request and peer.
  have hclosed : ∀ (link : Nat) (channel : SignalingChannel),
      ({ m.ctl with session := m.ctl.session.map (fun s : ActiveSession =>
        { s with signaling := some (link, channel.markClosed) }) }).Consistent := fun _ _ =>
    hk.mapSession _ (fun _ => rfl) (fun _ => rfl) (fun _ h => h)
  split
  · split
    all_goals
      simp only [StateT.run_bind, touch_run, updateSession_run, log_run, current_run, id_bind,
        pure_fst, pure_snd]
      split
      · exact endSession_consistent c (hk.transport_of_live (by simp_all))
      · exact (hclosed _ _).logged _ _
  · simp only [StateT.run_bind, log_run, current_run, id_bind, pure_fst, pure_snd]
    split
    · exact endSession_consistent c (hk.transport_of_live (by simp_all))
    · exact hk.logged _ _

theorem onLinkEvent_consistent (e : LinkEvent) {m : Machine W} (hk : m.ctl.Consistent) :
    ((onLinkEvent c e).run m).2.ctl.Consistent := by
  unfold onLinkEvent
  cases e with
  | text raw =>
    dsimp only
    split
    · exact dispatchSignal_consistent c _ hk
    · exact hk.logged _ _
  | binary length => exact hk.logged _ _
  | error message => exact hk.logged _ _
  | closed => exact onSignalingClosed_consistent c hk

theorem onSignalingOpened_consistent (url : Url) (result : Except SignalingError Nat)
    {m : Machine W} (hk : m.ctl.Consistent) :
    ((onSignalingOpened c url result).run m).2.ctl.Consistent := by
  unfold onSignalingOpened
  simp only [StateT.run_bind, current_run, id_bind, pure_fst, pure_snd]
  split
  · -- A link that opens after the attempt was given up is dropped at once.
    split <;> simp only [StateT.run_bind, touch_run, id_bind, StateT.run_pure, pure_snd] <;> exact hk
  · rename_i hs
    have ht : m.ctl.transport ≠ none := hk.transport_ne_none (by simp_all)
    split
    · simp only [StateT.run_bind, log_run, id_bind, pure_snd]
      exact endSession_consistent c (by simpa using ht)
    · rename_i link
      simp only [StateT.run_bind, log_run, spawn_run, current_run, id_bind, pure_fst, pure_snd]
      -- Whether or not the sender was dropped, the link joins the session before negotiating.
      have hk₁ : ∀ pump : Nat,
          ({ m.ctl.logged .info ("Signaling connected to " ++ url.text) with
            session := m.ctl.session.map (fun s : ActiveSession =>
              { s with signaling := some (link, { url }), tasks := s.tasks ++ [pump] }) }).Consistent :=
        fun _ => (hk.logged _ _).mapSession _ (fun _ => rfl) (fun _ => rfl) (fun _ h => h)
      split
      all_goals
        simp only [StateT.run_bind, touch_run, updateSession_run, id_bind, pure_snd]
        split
        · exact failSetup_consistent c _ ((startNegotiation_consistent c (hk₁ _)).transport_ne_none
            (by rw [startNegotiation_status]; simp_all))
        · exact startNegotiation_consistent c (hk₁ _)

theorem onReconnectDue_consistent {m : Machine W} (hk : m.ctl.Consistent) :
    ((onReconnectDue c).run m).2.ctl.Consistent := by
  unfold onReconnectDue
  simp only [StateT.run_bind, current_run, id_bind, pure_fst, pure_snd]
  split
  · -- The reconnect is taken out of its slot before anything else.
    have hk₁ := hk.withReconnect none (by simp)
    simp only [StateT.run_bind, updateTimers_run, current_run, id_bind, pure_fst, pure_snd]
    split
    · exact hk₁
    · simp only [StateT.run_bind, log_run, id_bind, pure_snd]
      split
      · simp only [log_run, pure_snd]
        exact (connect_consistent c _ (hk₁.logged _ _)).logged _ _
      · simp only [StateT.run_pure, pure_snd]
        exact connect_consistent c _ (hk₁.logged _ _)
  · exact hk

theorem onStatsReport_consistent (report : Option InboundReport) {m : Machine W}
    (hk : m.ctl.Consistent) : ((onStatsReport report : Act W Unit).run m).2.ctl.Consistent := by
  rw [onStatsReport_ctl]
  split
  · exact hk.of_core rfl rfl rfl rfl rfl
  · exact hk

theorem onViewerCount_consistent (result : Except String UInt32) {m : Machine W}
    (hk : m.ctl.Consistent) : ((onViewerCount result : Act W Unit).run m).2.ctl.Consistent := by
  rw [onViewerCount_ctl]
  split
  · exact hk.of_core rfl rfl rfl rfl rfl
  · exact hk

theorem handleEvent_consistent (e : SessionEvent) {m : Machine W} (hk : m.ctl.Consistent) :
    ((handleEvent c e).run m).2.ctl.Consistent := by
  unfold handleEvent
  simp only [StateT.run_bind, current_run, id_bind, pure_fst, pure_snd]
  split
  · -- An event of another generation at most gives up the link it brought.
    split <;> simp only [StateT.run_bind, touch_run, id_bind, StateT.run_pure, pure_snd] <;> exact hk
  · split
    · exact onSignalingOpened_consistent c _ _ hk
    · exact onLinkEvent_consistent c _ hk
    · exact onPeerEvent_consistent c _ hk
    · exact onEngineEvent_consistent c _ hk
    · exact onStatsReport_consistent _ hk
    · exact onViewerCount_consistent _ hk
    · exact onReconnectDue_consistent c hk

end Act

namespace Machine

open Controller

variable {W : Type} (c : Collaborators W)

/-- One turn of the loop keeps the controller consistent, whatever it takes. -/
theorem step_consistent {m : Machine W} (hk : m.ctl.Consistent) (input : Input) :
    (m.step c input).ctl.Consistent := by
  cases input with
  | command cmd => exact Act.handleCommand_consistent c cmd hk
  | deliver event =>
    dsimp only [step]
    split
    · exact Act.handleEvent_consistent c event hk
    · exact hk
  | hangUp =>
    dsimp only [step]
    split
    · rw [Act.stop_ctl]
      exact (disconnected_consistent hk).of_core rfl rfl rfl rfl rfl
    · exact hk

/-- Every state the controller loop reaches is consistent, whatever the commands, the events
and the collaborators' answers. -/
theorem reachable_consistent {m : Machine W} (h : Reachable c m) : m.ctl.Consistent := by
  induction h with
  | start config world => exact start_consistent config
  | step input _ ih => exact step_consistent c ih input

/-- In the recording world, a connect to a stream and the first event after it leave a
consistent controller. -/
theorem connect_then_event_consistent :
    let c := Scenario.World.collaborators true true
    let m := ((start default {}).step c (.command (.connect ⟨"live", "localhost:8080", .peerToPeer⟩))).step c
      (.deliver ⟨1, .reconnectDue⟩)
    Reachable c m ∧ m.ctl.Consistent :=
  ⟨.step _ (.step _ (.start _ _)),
    reachable_consistent _ (.step _ (.step _ (.start _ _)))⟩

end Machine

end LiveViewer
