import LiveViewer.Proofs.Controller.Bootstrap
import LiveViewer.Proofs.Controller.Transitions

/-!
# How a peer-to-peer session starts

A peer-to-peer connect starts the signaling opener of its generation once, on the signaling
address of the requested endpoint, and the session stays Connecting; an endpoint with no signaling
address ends the session at once with one setup error and calls no connector (`Machine.PeerStart`).

The opener's report is handled while the session is Connecting (`Machine.OpenHandled`). A refused
link ends the session with one signaling error. An opened link is kept and the peer connector is
asked once for a peer session with the configured ICE servers: if it refuses, the session ends with
one setup error and no frame goes out; if the new peer session gives no offer, the session ends
with one setup error and that peer session is closed once; otherwise the offer goes out on the link
and the session stays Connecting.

From there a track or a connected peer session makes the session Connected, while a peer session
that fails or disconnects, a refused answer, or the loss of the link ends it
(`Machine.peer_bootstrap`). No turn that stays in the generation starts another opener.
-/

namespace LiveViewer

/-- A call that starts a signaling opener. -/
def Call.opens : Call → Bool
  | .spawn _ (.opener _) _ => true
  | _ => false

theorem Call.opens_of_routine (x : Call) (h : x.routine = true) : x.opens = false := by
  cases x with
  | spawn g p task => cases p <;> simp_all [Call.opens]
  | _ => rfl

theorem Call.opens_of_carriesTrack {x : Call} (h : x.carriesTrack = true) : x.opens = false := by
  cases x <;> first | rfl | simp [Call.carriesTrack] at h

theorem Call.opens_of_negotiates {x : Call} (h : x.negotiates = true) : x.opens = false := by
  cases x <;> first | rfl | simp [Call.negotiates] at h

namespace Collaborators

variable {W : Type} (c : Collaborators W)

/-- The world in which the peer connector is asked, once the signaling link `link` to `url` was
logged as connected in `w` and its pump started in generation `g`. -/
def linkedWorld (g : Nat) (url : Url) (link : Nat) (w : W) : W :=
  (c.spawn g (.linkPump link) (c.record ⟨.info, "Signaling connected to " ++ url.text⟩ w)).2

/-- The world in which the peer session `p` is asked for its offer, once the peer connector, asked
in `w` with `servers`, created it and its pump started in generation `g`. -/
def peeredWorld (g : Nat) (servers : List IceServer) (p : Nat) (w : W) : W :=
  (c.spawn g (.peerPump p) (c.createPeer servers w).2).2

end Collaborators

namespace Machine

variable {W : Type} (c : Collaborators W)

/-- How the peer-to-peer transport of `request` starts from `m`, `m'` being where it ends. -/
structure PeerStart (m : Machine (W × List Call)) (request : ConnectRequest)
    (m' : Machine (W × List Call)) : Prop where
  /-- No signaling address: a setup error, the surface cleared, and no connector called. -/
  invalid : ∀ e, signalingUrl request.serverEndpoint = .error e →
    Shows m m' .disconnected
      [.error (ViewerError.setup ("invalid signaling endpoint: " ++ e.message)).message,
        .source none]
  /-- Otherwise the signaling opener of the generation starts once on that address, and the
  session stays Connecting. -/
  opener : ∀ url, signalingUrl request.serverEndpoint = .ok url →
    Shows m m' .connecting [.opener m.ctl.generation url]

/-- How the report `result` of the opener on `url` is handled from `m`, whose live session is
`s`, `m'` being where it ends. The peer connector is asked in the world `linkedWorld`, and the new
peer session for its offer in the world `peeredWorld`. -/
structure OpenHandled (m : Machine (W × List Call)) (s : ActiveSession) (url : Url)
    (result : Except SignalingError Nat) (m' : Machine (W × List Call)) : Prop where
  /-- A refused link: one signaling error, and the session torn down. -/
  refused : ∀ e, result = .error e →
    Shows m m' .disconnected (.error (ViewerError.signaling e).message :: m.ctl.teardownSights)
  /-- The peer connector refuses: one setup error, the session torn down, and no frame sent. -/
  unpeered : ∀ link e, result = .ok link →
    (c.createPeer m.ctl.config.iceServers
      (c.linkedWorld m.ctl.generation url link m.world.1)).1 = .error e →
    Shows m m' .disconnected (.peer m.ctl.config.iceServers (.error e) ::
      .error (ViewerError.setup e.message).message :: m.ctl.teardownSights)
  /-- The new peer session gives no offer: one setup error, and the session torn down with that
  peer session closed once. -/
  unoffered : ∀ link p e, result = .ok link →
    (c.createPeer m.ctl.config.iceServers
      (c.linkedWorld m.ctl.generation url link m.world.1)).1 = .ok p →
    (c.createOffer p (c.peeredWorld m.ctl.generation m.ctl.config.iceServers p
      (c.linkedWorld m.ctl.generation url link m.world.1))).1 = .error e →
    Shows m m' .disconnected [.peer m.ctl.config.iceServers (.ok p),
      .error (ViewerError.setup e.message).message, .closePeer p, .source none]
  /-- The offer goes out on the link, and the session stays Connecting. -/
  offered : ∀ link p sdp, result = .ok link →
    (c.createPeer m.ctl.config.iceServers
      (c.linkedWorld m.ctl.generation url link m.world.1)).1 = .ok p →
    (c.createOffer p (c.peeredWorld m.ctl.generation m.ctl.config.iceServers p
      (c.linkedWorld m.ctl.generation url link m.world.1))).1 = .ok sdp →
    Shows m m' .connecting [.peer m.ctl.config.iceServers (.ok p),
      .frame link (SignalMessage.offer s.request.streamKey sdp).encode]

end Machine

namespace Act

variable {W : Type} (c : Collaborators W)

open Machine Collaborators

/-- The peer-to-peer transport starts as `PeerStart` says from a Connecting state whose live
session has no peer session, as a begun session is. -/
theorem openSignaling_start {m : Machine (W × List Call)} {s : ActiveSession}
    (hs : m.ctl.session = some s) (hp : s.peer = none) (hc : m.ctl.status = .connecting)
    (request : ConnectRequest) :
    PeerStart m request ((openSignaling c.journaled request).run m).2 := by
  constructor
  · intro e he
    -- the refusal tears down a session with no peer session, which clears the surface once
    have hsights : m.ctl.teardownSights = [.source none] := by
      simp [Controller.teardownSights, hs, hp]
    have hrun : (openSignaling c.journaled request).run m =
        (failSetup c.journaled (.setup ("invalid signaling endpoint: " ++ e.message))).run m := by
      -- rewrite the address first: simp would otherwise try to evaluate it
      unfold openSignaling
      rw [he]
    have hshows := failSetup_shows c (.setup ("invalid signaling endpoint: " ++ e.message)) m
    rw [hsights] at hshows
    rw [hrun]
    exact hshows
  · intro url hu
    unfold openSignaling
    rw [hu]
    simp only [StateT.run_bind, spawn_run, updateSession_run, id_bind, pure_fst, pure_snd]
    exact ⟨hc, _, by simp; rfl, by simp⟩

theorem onSignalingOpened_refused (url : Url) (e : SignalingError) {m : Machine W}
    (h : m.ctl.status = .connecting) :
    (onSignalingOpened c url (.error e)).run m = (failSetup c (.signaling e)).run m := by
  simp [onSignalingOpened, h, failSetup]

/-- The opener's report is handled as `OpenHandled` says while the session `s` is Connecting. -/
theorem onSignalingOpened_handled {m : Machine (W × List Call)} {s : ActiveSession}
    (hs : m.ctl.session = some s) (hc : m.ctl.status = .connecting) (url : Url)
    (result : Except SignalingError Nat) :
    OpenHandled c m s url result ((onSignalingOpened c.journaled url result).run m).2 := by
  -- Each case runs the handler up to its setup failure or its offer: before that, the link's log
  -- entry and pump and the peer session's pump show nothing, the peer connector's answer does.
  constructor
  · rintro e rfl
    rw [onSignalingOpened_refused c.journaled url e hc]
    exact failSetup_shows c _ m
  · rintro link e rfl he
    simp only [linkedWorld] at he
    simp [onSignalingOpened, hc, hs, startNegotiation, he]
    refine (failSetup_shows_after c _ rfl _).congr ?_
    simp [Controller.teardownSights, hs, ViewerError.ofTransport, List.filterMap_cons]
  · rintro link p e rfl hp he
    simp only [linkedWorld, peeredWorld] at hp he
    simp [onSignalingOpened, hc, hs, startNegotiation, hp, he]
    refine (failSetup_shows_after c _ rfl _).congr ?_
    simp [Controller.teardownSights, ViewerError.ofTransport, List.filterMap_cons]
  · rintro link p sdp rfl hp hsdp
    simp only [linkedWorld, peeredWorld] at hp hsdp
    simp [onSignalingOpened, hc, hs, startNegotiation, hp, hsdp]
    rw [sendSignal_run c.journaled _ link rfl rfl, pure_snd]
    refine (shows_of_calls _ (by simp; rfl) rfl rfl).congr ?_
    simp [List.filterMap_cons]

/-- A connected peer session makes a connecting session Connected. -/
theorem onPeerState_connected_status {m : Machine W} (hc : m.ctl.status = .connecting) :
    ((onPeerState c .connected).run m).2.ctl.status = .connected := by
  simp only [onPeerState, StateT.run_bind, id_bind]
  rw [startStatsSampler_status, markConnected_status, if_pos hc]

/-- While Connecting, a peer session that fails or disconnects ends the session with one setup
error. -/
theorem onPeerState_fails_shows {state : PeerState} (hf : state.fails = true)
    {m : Machine (W × List Call)} (hc : m.ctl.status = .connecting) :
    Shows m ((onPeerState c.journaled state).run m).2 .disconnected
      (.error (ViewerError.setup ("peer connection " ++ state.label ++ " during setup")).message ::
        m.ctl.teardownSights) := by
  have hrun : (onPeerState c.journaled state).run m =
      (failSetup c.journaled
        (.setup ("peer connection " ++ state.label ++ " during setup"))).run m := by
    cases state <;> simp_all [onPeerState, PeerState.fails]
  rw [hrun]
  exact failSetup_shows c _ m

/-- While Connecting, an answer the peer session refuses ends the session with one setup error. -/
theorem dispatchSignal_answer_shows {m : Machine (W × List Call)} {p : Nat} {sdp : String}
    {e : TransportError} (hp : m.ctl.session.bind (·.peer) = some p)
    (ha : (c.applyAnswer p sdp m.world.1).1 = .error e) (hc : m.ctl.status = .connecting) :
    Shows m ((dispatchSignal c.journaled (.answer sdp)).run m).2 .disconnected
      (.error (ViewerError.setup ("failed to apply answer: " ++ e.message)).message ::
        m.ctl.teardownSights) := by
  simp [dispatchSignal, hp, ha, hc]
  exact (failSetup_shows_after c [.applyAnswer p sdp] (by simp) _).congr (by simp)

/-- While Connecting, the loss of the signaling link ends the session: only its teardown shows,
the link's loss being a warning. -/
theorem onSignalingClosed_shows {m : Machine (W × List Call)} (hc : m.ctl.status = .connecting) :
    Shows m ((onSignalingClosed c.journaled).run m).2 .disconnected m.ctl.teardownSights := by
  unfold onSignalingClosed
  simp only [StateT.run_bind, current_run, id_bind, pure_fst, pure_snd]
  split
  · rename_i link channel hsig
    obtain ⟨s, hs, -⟩ := Option.bind_eq_some_iff.1 hsig
    -- The sending end is dropped if still held; the session keeps its peer session.
    split
    all_goals
      simp [hc]
      refine (endSession_shows_after c _ (by simp; rfl)).congr ?_
      simp [Controller.teardownSights, hs, List.filterMap_cons]
  · simp [hc]
    exact (endSession_shows_after c _ (by simp; rfl)).congr (by simp [Controller.teardownSights])

end Act

namespace Machine

variable {W : Type} (c : Collaborators W)

/-- A turn that stays in its generation starts no signaling opener. -/
theorem step_opens_none (m : Machine (W × List Call)) {input : Input}
    (hb : beginsGeneration m.ctl input = false) :
    ∃ calls, (m.step c.journaled input).world.2 = m.world.2 ++ calls ∧
      calls.filter Call.opens = [] :=
  step_quiet_of_stays c Call.opens_of_routine (fun _ hx => Call.opens_of_carriesTrack hx)
    (fun _ hx => Call.opens_of_negotiates hx) m hb (fun _ _ _ _ _ _ => rfl)

/-- What a state `m` the loop reaches does with a peer-to-peer session: how one starts, how the
opener's report is handled, and how the events of its peer session and its link move it while it
is Connecting. -/
structure PeerBootstrap (m : Machine (W × List Call)) : Prop where
  /-- A peer-to-peer connect that passes validation from a status other than Connecting succeeds,
  its session begun as Connecting, and its transport starts as `PeerStart` says. -/
  connect : ∀ request valid, request.validated = .ok valid →
    valid.transport = .peerToPeer → m.ctl.status ≠ .connecting →
    ∃ m', (Act.connect c.journaled request).run m = pure (.ok (), m') ∧
      (m.begun c.journaled valid).ctl.status = .connecting ∧
      PeerStart (m.begun c.journaled valid) valid m'
  /-- No turn that stays in the generation starts another opener. -/
  openers : ∀ input, beginsGeneration m.ctl input = false →
    ∃ calls, (m.step c.journaled input).world.2 = m.world.2 ++ calls ∧
      calls.filter Call.opens = []
  /-- The opener's report, while Connecting, is handled as `OpenHandled` says. -/
  opened : ∀ s url result, m.ctl.session = some s → m.ctl.status = .connecting →
    OpenHandled c m s url result
      (m.step c.journaled (.deliver ⟨m.ctl.generation, .signalingOpened url result⟩))
  /-- While Connecting, a track or a connected peer session makes the session Connected. -/
  connected : m.ctl.status = .connecting →
    (∀ stream, (m.step c.journaled
      (.deliver ⟨m.ctl.generation, .peer (.track stream)⟩)).ctl.status = .connected) ∧
    (m.step c.journaled
      (.deliver ⟨m.ctl.generation, .peer (.stateChanged .connected)⟩)).ctl.status = .connected
  /-- While Connecting, a peer session that fails or disconnects ends the session with one setup
  error. -/
  failed : ∀ state, state.fails = true → m.ctl.status = .connecting →
    Shows m (m.step c.journaled (.deliver ⟨m.ctl.generation, .peer (.stateChanged state)⟩))
      .disconnected
      (.error (ViewerError.setup ("peer connection " ++ state.label ++ " during setup")).message ::
        m.ctl.teardownSights)
  /-- While Connecting, an answer the peer session refuses ends the session with one setup
  error. -/
  answer_refused : ∀ raw sdp p e, Inbound.ofFrame raw = .message (.answer sdp) →
    m.ctl.session.bind (·.peer) = some p → (c.applyAnswer p sdp m.world.1).1 = .error e →
    m.ctl.status = .connecting →
    Shows m (m.step c.journaled (Input.frame m.ctl.generation raw)) .disconnected
      (.error (ViewerError.setup ("failed to apply answer: " ++ e.message)).message ::
        m.ctl.teardownSights)
  /-- While Connecting, the loss of the signaling link ends the session. -/
  closed : m.ctl.status = .connecting →
    Shows m (m.step c.journaled (.deliver ⟨m.ctl.generation, .link .closed⟩)) .disconnected
      m.ctl.teardownSights

/-- In every state the loop reaches, a peer-to-peer connect starts one opener or fails with one
setup error; its report ends the session with one error or, once the peer session and its offer
are there, sends the offer; and from there the session becomes Connected or ends. -/
theorem peer_bootstrap {m : Machine (W × List Call)} (h : Reachable c.journaled m) :
    PeerBootstrap c m := by
  have hk : m.ctl.Consistent := reachable_consistent c.journaled h
  -- A connecting controller has a live session, so its loop runs.
  have hlive : m.ctl.status = .connecting → ∃ s, m.ctl.session = some s := fun hc =>
    Option.isSome_iff_exists.1 (hk.session_iff.2 (.inl hc))
  have hr : m.ctl.status = .connecting → m.ctl.running = true := fun hc => by
    obtain ⟨s, hs⟩ := hlive hc
    exact h.running_of_session c hs
  refine ⟨fun request valid hv htr hs => ?_, fun input hb => step_opens_none c m hb,
    fun s url result hs hc => ?_, fun hc => ⟨fun stream => ?_, ?_⟩, fun state hf hc => ?_,
    fun raw sdp p e hf hp ha hc => ?_, fun hc => ?_⟩
  · refine ⟨_, connect_run_begun c.journaled hv hs, begun_status c.journaled m valid, ?_⟩
    simp only [Act.startTransport, htr]
    exact Act.openSignaling_start c (begun_session c.journaled m valid) rfl
      (begun_status c.journaled m valid) valid
  · rw [step_current c.journaled m _ rfl (hr hc)]
    exact Act.onSignalingOpened_handled c hs hc url result
  · obtain ⟨s, hs⟩ := hlive hc
    rw [step_track c.journaled (hr hc)]
    simpa [hc] using (Act.onPeerEvent_track c stream hs).2.2.1
  · rw [step_current c.journaled m _ rfl (hr hc)]
    exact Act.onPeerState_connected_status c.journaled hc
  · rw [step_current c.journaled m _ rfl (hr hc)]
    exact Act.onPeerState_fails_shows c hf hc
  · rw [step_frame c.journaled (hr hc)]
    simp only [Act.onLinkEvent, hf]
    exact Act.dispatchSignal_answer_shows c hp ha hc
  · rw [step_current c.journaled m _ rfl (hr hc)]
    exact Act.onSignalingClosed_shows c hc

/-- The peer bootstrap holds once a viewer asked to watch a stream of a local server. -/
theorem start_peer_bootstrap :
    let c := Scenario.World.collaborators true true
    let m := (start default ({}, [])).step c.journaled
      (.command (.connect ⟨"live", "[::1]:8080", .peerToPeer⟩))
    Reachable c.journaled m ∧ PeerBootstrap c m :=
  ⟨.step _ (.start _ _), peer_bootstrap _ (.step _ (.start _ _))⟩

end Machine

end LiveViewer
