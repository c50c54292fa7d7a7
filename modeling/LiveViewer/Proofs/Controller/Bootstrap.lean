import LiveViewer.Proofs.Controller.Binding
import LiveViewer.Proofs.Controller.Isolation

/-!
# How a session starts

A connect the controller accepts tears the old session down, begins the new one as Connecting and
starts its transport before it answers (`Machine.connect_run_begun`, from `Machine.begun`). What
happens then is told by the calls the controller makes, seen through `Call.sight`: the surface's
source bound or cleared, a segment engine started, a connector called, a frame sent, a peer session
closed, an error entry logged. `Machine.Shows m m' status sights` says that the turn from `m` to
`m'` ends in `status` and shows exactly `sights`, in order.

Every failure on the way funnels into `failSetup`, which shows one error entry and then the
teardown of the session: its peer session closed if it had one, and the surface cleared
(`Act.failSetup_shows`).

Segmented pull starts without a connector: the playlist is bound to the surface natively when the
surface plays playlists itself, and the session is Connected at once; otherwise a segment engine
is started on it, and the session stays Connecting until the engine read its first playlist; an
engine error ends it while Connecting and is only logged after that
(`Machine.segmented_bootstrap`).
-/

namespace LiveViewer

/-- What the start of a session shows of a call. -/
inductive Sight where
  /-- The surface's source bound (`some`) or cleared (`none`). -/
  | source (source : Option (MediaSource Url))
  /-- A segment engine started on a playlist, with its answer. -/
  | engine (manifest : Url) (answer : Except TransportError Nat)
  /-- The signaling connector opened on an address, in a generation. -/
  | opener (generation : Nat) (url : Url)
  /-- The peer connector asked for a peer session, with its answer. -/
  | peer (servers : List IceServer) (answer : Except TransportError Nat)
  /-- A frame sent on a signaling link. -/
  | frame (link : Nat) (text : String)
  /-- A peer session closed. -/
  | closePeer (peer : Nat)
  /-- An error entry logged. -/
  | error (message : String)

/-- What a call shows, if it shows anything. -/
@[simp] def Call.sight : Call → Option Sight
  | .setSource source => some (.source (some source))
  | .clearSource => some (.source none)
  | .startEngine manifest answer => some (.engine manifest answer)
  | .spawn g (.opener url) _ => some (.opener g url)
  | .createPeer servers answer => some (.peer servers answer)
  | .sendFrame link text => some (.frame link text)
  | .closePeer peer => some (.closePeer peer)
  | .record ⟨.error, message⟩ => some (.error message)
  | _ => none

/-- A log entry other than an error shows nothing. -/
@[simp] theorem Call.sight_record {level : Level} (h : level ≠ .error) (message : String) :
    Call.sight (.record ⟨level, message⟩) = none := by
  cases level <;> simp_all

/-- A call to a connector: a signaling opener started, or a peer session asked for. -/
def Call.connects : Call → Bool
  | .spawn _ (.opener _) _ | .createPeer .. => true
  | _ => false

theorem Call.connects_of_routine (x : Call) (h : x.routine = true) : x.connects = false := by
  cases x with
  | spawn g p task => cases p <;> simp_all [Call.connects]
  | _ => first | rfl | simp at h

theorem Call.connects_of_negotiates {x : Call} (h : x.negotiates = true) : x.connects = false := by
  cases x <;> first | rfl | simp [Call.negotiates] at h

theorem Call.connects_of_carriesTrack {x : Call} (h : x.carriesTrack = true) :
    x.connects = false := by
  cases x <;> first | rfl | simp [Call.carriesTrack] at h

/-- What tearing down `k` shows: the live session's peer session closed, if it has one, and the
surface cleared. -/
def Controller.teardownSights (k : Controller) : List Sight :=
  match k.session with
  | none => []
  | some s => s.peer.toList.map .closePeer ++ [.source none]

namespace Collaborators

@[simp] theorem timerAborts_sights (t : Timers) : (timerAborts t).filterMap Call.sight = [] := by
  simp [timerAborts, List.filterMap_map, Function.comp_def]

/-- Releasing a session shows its peer session closed, if it had one, and the surface cleared. -/
@[simp] theorem releaseCalls_sights (s : ActiveSession) (stats : Option Nat) :
    (releaseCalls s stats).filterMap Call.sight =
      s.peer.toList.map .closePeer ++ [.source none] := by
  unfold releaseCalls
  simp only [List.filterMap_append, List.filterMap_map, Function.comp_def]
  (repeat' split) <;> cases s.peer <;> simp [List.filterMap_cons]

theorem teardownCalls_sights (k : Controller) :
    (teardownCalls k).filterMap Call.sight = k.teardownSights := by
  unfold teardownCalls Controller.teardownSights
  split <;> simp_all

variable {W : Type} (c : Collaborators W)

/-- The world once the surface was given the segment feed of `u` and the engine `start` was
started on it, both written in the journal. -/
def engineWorld (start : Url → W → Except TransportError Nat × W) (u : Url) (w : W × List Call) :
    W × List Call :=
  let answer := start u (c.setSource (.segmentFeed u) w.1)
  (answer.2, w.2 ++ [.setSource (.segmentFeed u), .startEngine u answer.1])

end Collaborators

namespace Machine

variable {W : Type}

/-- The turn from `m` to `m'` ends in the status `status`, and of the calls it makes shows
exactly `sights`, in order. -/
structure Shows (m m' : Machine (W × List Call)) (status : Status) (sights : List Sight) :
    Prop where
  status : m'.ctl.status = status
  sights : ∃ calls, m'.world.2 = m.world.2 ++ calls ∧ calls.filterMap Call.sight = sights

theorem shows_of_calls {m m' : Machine (W × List Call)} {status : Status} {sights : List Sight}
    (calls : List Call) (hw : m'.world.2 = m.world.2 ++ calls)
    (hc : calls.filterMap Call.sight = sights) (hs : m'.ctl.status = status) :
    Shows m m' status sights :=
  ⟨hs, calls, hw, hc⟩

theorem Shows.trans {m₁ m₂ m₃ : Machine (W × List Call)} {s₂ s₃ : Status} {xs ys : List Sight}
    (h₁ : Shows m₁ m₂ s₂ xs) (h₂ : Shows m₂ m₃ s₃ ys) : Shows m₁ m₃ s₃ (xs ++ ys) where
  status := h₂.status
  sights := by
    obtain ⟨calls₁, hw₁, hs₁⟩ := h₁.sights
    obtain ⟨calls₂, hw₂, hs₂⟩ := h₂.sights
    exact ⟨calls₁ ++ calls₂, by rw [hw₂, hw₁, List.append_assoc],
      by rw [List.filterMap_append, hs₁, hs₂]⟩

theorem Shows.congr {m m' : Machine (W × List Call)} {status : Status} {xs ys : List Sight}
    (h : Shows m m' status xs) (e : xs = ys) : Shows m m' status ys :=
  e ▸ h

variable (c : Collaborators W)

/-- How the segmented transport of `request` starts from `m`, `m'` being where it ends; the
surface and the segment engine answer in the world of `m`. -/
structure SegmentedStart (m : Machine (W × List Call)) (request : ConnectRequest)
    (m' : Machine (W × List Call)) : Prop where
  /-- No playlist address: a setup error, and the surface cleared. -/
  invalid : ∀ e, manifestUrl request.serverEndpoint request.streamKey = .error e →
    Shows m m' .disconnected
      [.error (ViewerError.setup ("invalid manifest endpoint: " ++ e.message)).message,
        .source none]
  /-- A surface that plays playlists itself is given the playlist, and the session is Connected
  with no engine started. -/
  native : ∀ u, manifestUrl request.serverEndpoint request.streamKey = .ok u →
    c.nativeHls m.world.1 = true → Shows m m' .connected [.source (some (.manifest u))]
  /-- Otherwise, with no segment engine to start: a setup error, and the surface cleared. -/
  unsupported : ∀ u, manifestUrl request.serverEndpoint request.streamKey = .ok u →
    c.nativeHls m.world.1 = false → c.startEngine = none →
    Shows m m' .disconnected
      [.error (ViewerError.setup TransportError.segmentedUnsupported.message).message, .source none]
  /-- The surface given the segment feed, and a segment engine that fails to start once on the
  playlist: a setup error, and the surface cleared. -/
  engine_failed : ∀ u start err, manifestUrl request.serverEndpoint request.streamKey = .ok u →
    c.nativeHls m.world.1 = false → c.startEngine = some start →
    (start u (c.setSource (.segmentFeed u) m.world.1)).1 = .error err →
    Shows m m' .disconnected [.source (some (.segmentFeed u)), .engine u (.error err),
      .error (ViewerError.setup err.message).message, .source none]
  /-- The surface given the segment feed, and a segment engine started once on the playlist: the
  session stays Connecting. -/
  engine_started : ∀ u start engine, manifestUrl request.serverEndpoint request.streamKey = .ok u →
    c.nativeHls m.world.1 = false → c.startEngine = some start →
    (start u (c.setSource (.segmentFeed u) m.world.1)).1 = .ok engine →
    Shows m m' .connecting [.source (some (.segmentFeed u)), .engine u (.ok engine)]

end Machine

namespace Act

variable {W : Type} (c : Collaborators W)

open Machine Collaborators

/-- Ending a session shows its teardown. -/
theorem endSession_shows (m : Machine (W × List Call)) :
    Shows m ((endSession c.journaled).run m).2 .disconnected m.ctl.teardownSights where
  status := by simp [endSession_ctl, Controller.ended]
  sights := by
    refine ⟨teardownCalls m.ctl ++ [.showOverlay (some disconnectedOverlay)], ?_, ?_⟩
    · rw [endSession_world]
      simp [journaled_teardown]
    · simp [teardownCalls_sights]

/-- Ending a session after calls that continue the journal of `m` shows what they show, then the
teardown. -/
theorem endSession_shows_after {m m₁ : Machine (W × List Call)} (calls : List Call)
    (hw : m₁.world.2 = m.world.2 ++ calls) :
    Shows m ((endSession c.journaled).run m₁).2 .disconnected
      (calls.filterMap Call.sight ++ m₁.ctl.teardownSights) :=
  (shows_of_calls calls hw rfl rfl).trans (endSession_shows c m₁)

/-- A setup failure shows one error entry, then the teardown of the session. -/
theorem failSetup_shows (e : ViewerError) (m : Machine (W × List Call)) :
    Shows m ((failSetup c.journaled e).run m).2 .disconnected
      (.error e.message :: m.ctl.teardownSights) :=
  (shows_of_calls [.record ⟨.error, e.message⟩] rfl rfl rfl).trans (endSession_shows c _)

/-- A setup failure after calls that continue the journal of `m` shows what they show, then one
error entry and the teardown. -/
theorem failSetup_shows_after {m m₁ : Machine (W × List Call)} (calls : List Call)
    (hw : m₁.world.2 = m.world.2 ++ calls) (e : ViewerError) :
    Shows m ((failSetup c.journaled e).run m₁).2 .disconnected
      (calls.filterMap Call.sight ++ .error e.message :: m₁.ctl.teardownSights) :=
  (shows_of_calls calls hw rfl rfl).trans (failSetup_shows c e m₁)

/-- Marking a connecting session connected shows nothing. -/
theorem markConnected_shows {m : Machine (W × List Call)} (h : m.ctl.status = .connecting) :
    Shows m ((markConnected c.journaled).run m).2 .connected [] where
  status := by simpa [h] using (markConnected_keeps c.journaled m).2.2.2
  sights := by
    simp only [markConnected, StateT.run_bind, current_run, h, id_bind, pure_fst, pure_snd,
      bne_self_eq_false, Bool.false_eq_true, if_false, update_run, setOverlay_run, log_run,
      publish_run]
    unfold startViewerCountTimer
    simp only [StateT.run_bind, current_run, id_bind, pure_fst, pure_snd]
    -- The viewer-count timer starts only when none runs, and only on a live session.
    split
    · exact ⟨[.showOverlay none, .record ⟨.info, "Connected"⟩], by simp, by simp⟩
    · split
      · exact ⟨[.showOverlay none, .record ⟨.info, "Connected"⟩, .spawn _ _ _],
          by simp; exact ⟨rfl, rfl, rfl⟩, by simp⟩
      · exact ⟨[.showOverlay none, .record ⟨.info, "Connected"⟩], by simp, by simp⟩

theorem attachSegmented_run_native {u : Url} {m : Machine (W × List Call)}
    (hn : c.nativeHls m.world.1 = true) :
    (attachSegmented c.journaled u).run m =
      pure (.ok .native, { m with world := c.journaled.setSource (.manifest u) m.world }) := by
  simp [attachSegmented, hn]
  rfl

theorem attachSegmented_run_unsupported {u : Url} {m : Machine (W × List Call)}
    (hn : c.nativeHls m.world.1 = false) (he : c.startEngine = none) :
    (attachSegmented c.journaled u).run m = pure (.error .segmentedUnsupported, m) := by
  simp [attachSegmented, hn, he]

theorem attachSegmented_run_engine {u : Url} {m : Machine (W × List Call)} {start}
    (hn : c.nativeHls m.world.1 = false) (he : c.startEngine = some start) :
    (attachSegmented c.journaled u).run m =
      pure ((start u (c.setSource (.segmentFeed u) m.world.1)).1.map .engine,
        { m with world := c.engineWorld start u m.world }) := by
  cases hr : (start u (c.setSource (.segmentFeed u) m.world.1)).1 <;>
    simp [attachSegmented, hn, he, hr, engineWorld] <;> rfl

/-- The segmented transport starts as `SegmentedStart` says from a Connecting state whose live
session has no peer session, as a begun session is. -/
theorem startSegmented_start {m : Machine (W × List Call)} {s : ActiveSession}
    (hs : m.ctl.session = some s) (hp : s.peer = none) (hc : m.ctl.status = .connecting)
    (request : ConnectRequest) :
    SegmentedStart c m request ((startSegmented c.journaled request).run m).2 := by
  have ht : m.ctl.teardownSights = [.source none] := by
    simp [Controller.teardownSights, hs, hp]
  constructor
  -- each case reads the playlist address first, then goes on without reading it again
  · intro e he
    unfold startSegmented
    rw [he]
    simpa [ht] using failSetup_shows c _ m
  · intro u hu hn
    unfold startSegmented
    rw [hu]
    simp only [StateT.run_bind, attachSegmented_run_native c hn, id_bind,
      spawn_run, updateSession_run, pure_fst, pure_snd, beq_self_eq_true, if_true]
    -- The playlist bound and the engine pump started, then the session marked connected.
    rw [← List.append_nil [Sight.source (some (.manifest u))]]
    let pump :=
      (c.spawn m.ctl.generation (.enginePump none) (c.setSource (.manifest u) m.world.1)).1
    refine Shows.trans (shows_of_calls
      [.setSource (.manifest u), .spawn m.ctl.generation (.enginePump none) pump] ?_ ?_ ?_ :
      Shows _ _ .connecting _) (markConnected_shows c ?_)
    · simp [pump]
    · simp
    · exact hc
    · exact hc
  · intro u hu hn he
    unfold startSegmented
    rw [hu]
    simpa [attachSegmented_run_unsupported c hn he, ht, ViewerError.ofTransport]
      using failSetup_shows c _ m
  · intro u start err hu hn he hr
    have hrun : (startSegmented c.journaled request).run m =
        (failSetup c.journaled (ViewerError.ofTransport err)).run
          { m with world := c.engineWorld start u m.world } := by
      unfold startSegmented
      rw [hu]
      simp [attachSegmented_run_engine c hn he, hr, Except.map]
    have hbound : Shows m { m with world := c.engineWorld start u m.world } .connecting
        [.source (some (.segmentFeed u)), .engine u (.error err)] :=
      shows_of_calls [.setSource (.segmentFeed u), .startEngine u (.error err)]
        (by simp [engineWorld, hr]) (by simp) hc
    rw [hrun]
    simpa [ht, ViewerError.ofTransport] using hbound.trans (failSetup_shows c _ _)
  · intro u start engine hu hn he hr
    unfold startSegmented
    rw [hu]
    simp [attachSegmented_run_engine c hn he, hr, Except.map]
    exact ⟨hc, _, by simp [engineWorld]; rfl, by simp [hr]⟩

/-- While Connecting, an engine error ends the session with one setup error. -/
theorem onEngineEvent_error_connecting (message : String) {m : Machine (W × List Call)}
    (h : m.ctl.status = .connecting) :
    Shows m ((onEngineEvent c.journaled (.error message)).run m).2 .disconnected
      (.error (ViewerError.setup ("manifest unavailable: " ++ message)).message ::
        m.ctl.teardownSights) := by
  have hrun : (onEngineEvent c.journaled (.error message)).run m =
      (failSetup c.journaled (.setup ("manifest unavailable: " ++ message))).run m := by
    simp [onEngineEvent, h]
  rw [hrun]
  exact failSetup_shows c _ m

/-- Past Connecting, an engine error is only logged as a warning. -/
theorem onEngineEvent_error_of_ne (message : String) {m : Machine W}
    (h : m.ctl.status ≠ .connecting) :
    ((onEngineEvent c (.error message)).run m).2 =
      ⟨m.ctl.logged .warn ("Segment engine error: " ++ message),
        c.record ⟨.warn, "Segment engine error: " ++ message⟩ m.world⟩ := by
  simp [onEngineEvent, h]

end Act

namespace Machine

variable {W : Type} (c : Collaborators W)

/-- The machine once a connect accepted `request`, before the transport starts: the old session
torn down, the new one begun as Connecting and announced in the log. -/
def begun (m : Machine W) (request : ConnectRequest) : Machine W :=
  ⟨m.ctl.begun request, c.record ⟨.info, Act.connectingMessage request⟩
    (c.showOverlay (some connectingOverlay) (c.teardown m.ctl m.world))⟩

@[simp] theorem begun_session (m : Machine W) (request : ConnectRequest) :
    (m.begun c request).ctl.session = some { generation := m.ctl.generation + 1, request } := by
  simp [begun, Controller.begun]

@[simp] theorem begun_status (m : Machine W) (request : ConnectRequest) :
    (m.begun c request).ctl.status = .connecting := by
  simp [begun, Controller.begun]

/-- An accepted connect answers once the transport of the begun session started. -/
theorem connect_run_begun {request valid : ConnectRequest} (h : request.validated = .ok valid)
    {m : Machine W} (hs : m.ctl.status ≠ .connecting) :
    (Act.connect c request).run m =
      pure (.ok (), ((Act.startTransport c valid).run (m.begun c valid)).2) := by
  rw [Act.connect_run_accepted c h hs]
  dsimp only
  rw [Act.release_after_cancelAll]
  rfl

/-- A live segmented session has no stats timer. -/
theorem stats_none_of_segmented {k : Controller} (hk : k.Consistent) {s : ActiveSession}
    (hs : k.session = some s) (hseg : s.request.transport = .segmentedPull) :
    k.timers.stats = none := by
  cases hst : k.timers.stats with
  | none => rfl
  | some id =>
    have hp2p := (hk.stats_timer (by simp [hst])).2.1
    rw [(hk.session_current s hs).2, hseg] at hp2p
    cases hp2p

/-- A turn that stays in its generation makes no call of a kind `P` that leaves out routine
calls, media handed to the surface and negotiations, and creations of a peer session too when the
turn delivers a signaling open of the current generation. -/
theorem step_quiet_of_stays {P : Call → Bool} (hP : ∀ x : Call, x.routine = true → P x = false)
    (htrack : ∀ x : Call, x.carriesTrack = true → P x = false)
    (hneg : ∀ x : Call, x.negotiates = true → P x = false)
    (m : Machine (W × List Call)) {input : Input} (hb : beginsGeneration m.ctl input = false)
    (ho : ∀ e, input = .deliver e → e.generation = m.ctl.generation → e.kind.isOpened = true →
      ∀ servers answer, P (.createPeer servers answer) = false) :
    ∃ calls, (m.step c.journaled input).world.2 = m.world.2 ++ calls ∧ calls.filter P = [] := by
  cases ht : input.track m.ctl.generation with
  | some stream =>
    -- A track hands media to the surface, and the rest of its turn is routine.
    obtain rfl := Input.track_eq_some.1 ht
    cases hr : m.ctl.running
    · exact ⟨[], by rw [step_stopped c.journaled hr]; simp, rfl⟩
    rw [step_track c.journaled hr]
    cases hs : m.ctl.session with
    | none => exact ⟨[], by rw [onPeerEvent_track_none c.journaled hs]; simp, rfl⟩
    | some s =>
      obtain ⟨⟨calls, hw, hroutine⟩, -⟩ := Act.onPeerEvent_track c stream hs
      refine ⟨Collaborators.trackCalls s.boundStream stream ++ calls,
        by rw [hw, List.append_assoc], ?_⟩
      rw [List.filter_append, Call.filter_eq_nil_of_routine hP hroutine, List.append_nil]
      refine List.filter_eq_nil_iff.2 fun x hx => ?_
      rw [← Collaborators.filter_trackCalls] at hx
      simp [htrack x (List.mem_filter.1 hx).2]
  | none =>
    obtain ⟨calls, hw, hc⟩ := (step_writes_of_stays c hP m hb ht ho).calls
    refine ⟨calls, hw, hc.trans (List.filter_eq_nil_iff.2 fun x hx => ?_)⟩
    -- What a frame asks of the peer session is a negotiation.
    rw [← Controller.filter_peerCall] at hx
    simp [hneg x (List.mem_filter.1 hx).2]

/-- From a state of a faithful run, a turn that stays in the generation of a live segmented
session calls no connector. -/
theorem step_connects_none {m : Machine (W × List Call)} {delivered : List SessionEvent}
    (hf : Faithful c m delivered) {s : ActiveSession} (hs : m.ctl.session = some s)
    (hseg : s.request.transport = .segmentedPull) {input : Input}
    (hb : beginsGeneration m.ctl input = false)
    (hd : ∀ e, input = .deliver e → Deliverable m.world.2 delivered e) :
    ∃ calls, (m.step c.journaled input).world.2 = m.world.2 ++ calls ∧
      calls.filter Call.connects = [] := by
  refine step_quiet_of_stays c Call.connects_of_routine
    (fun _ hx => Call.connects_of_carriesTrack hx) (fun _ hx => Call.connects_of_negotiates hx)
    m hb ?_
  -- A signaling open of this generation would come from the session's own opener, and only
  -- a peer-to-peer session has one.
  intro e he hg hopen
  have hp2p := (hf.accounted.opened (hd e he) hg hopen s hs).2
  rw [hseg] at hp2p
  cases hp2p

/-- What a state `m` of a faithful run, `delivered` being the events delivered so far, does with a
segmented session: how one starts, how its engine's events move it, and what it never does. -/
structure SegmentedBootstrap (m : Machine (W × List Call)) (delivered : List SessionEvent) :
    Prop where
  /-- A segmented connect that passes validation from a status other than Connecting succeeds,
  and its transport starts from the begun session as `SegmentedStart` says. -/
  connect : ∀ request valid, request.validated = .ok valid →
    valid.transport = .segmentedPull → m.ctl.status ≠ .connecting →
    ∃ m', (Act.connect c.journaled request).run m = pure (.ok (), m') ∧
      SegmentedStart c (m.begun c.journaled valid) valid m'
  /-- While Connecting, the engine's first playlist makes the session Connected. -/
  parsed : ∀ segments live, m.ctl.status = .connecting →
    Shows m (m.step c.journaled
      (.deliver ⟨m.ctl.generation, .engine (.manifestParsed segments live)⟩)) .connected []
  /-- While Connecting, an engine error ends the session with one setup error and its teardown. -/
  failed : ∀ message, m.ctl.status = .connecting →
    Shows m (m.step c.journaled (.deliver ⟨m.ctl.generation, .engine (.error message)⟩))
      .disconnected (.error (ViewerError.setup ("manifest unavailable: " ++ message)).message ::
        m.ctl.teardownSights)
  /-- Once Connected, an engine error and the end of the playlist only add an entry to the log. -/
  logged : m.ctl.status = .connected →
    (∀ message, m.step c.journaled (.deliver ⟨m.ctl.generation, .engine (.error message)⟩) =
      let entry : LogEntry := ⟨.warn, "Segment engine error: " ++ message⟩
      ⟨m.ctl.logged entry.level entry.message, c.journaled.record entry m.world⟩) ∧
    m.step c.journaled (.deliver ⟨m.ctl.generation, .engine .ended⟩) =
      let entry : LogEntry := ⟨.info, "Stream playlist ended"⟩
      ⟨m.ctl.logged entry.level entry.message, c.journaled.record entry m.world⟩
  /-- A live segmented session has no stats timer. -/
  unsampled : ∀ s, m.ctl.session = some s → s.request.transport = .segmentedPull →
    m.ctl.timers.stats = none
  /-- While a segmented session is live, a turn that stays in its generation calls no connector. -/
  connectors : ∀ s, m.ctl.session = some s → s.request.transport = .segmentedPull →
    ∀ input, beginsGeneration m.ctl input = false →
      (∀ e, input = .deliver e → Deliverable m.world.2 delivered e) →
      ∃ calls, (m.step c.journaled input).world.2 = m.world.2 ++ calls ∧
        calls.filter Call.connects = []

/-- In every state of a faithful run, a segmented connect binds the playlist natively or through
a segment engine and fails with one setup error otherwise; the engine's first playlist connects,
its error ends a connecting session and is only logged later; and a segmented session never runs
the stats timer nor calls a connector. -/
theorem segmented_bootstrap {m : Machine (W × List Call)} {delivered : List SessionEvent}
    (hf : Faithful c m delivered) : SegmentedBootstrap c m delivered := by
  have hk : m.ctl.Consistent := reachable_consistent c.journaled hf.reachable
  -- A connecting or connected controller has a live session, so its loop runs.
  have hr : m.ctl.status = .connecting ∨ m.ctl.status = .connected → m.ctl.running = true := by
    intro hst
    obtain ⟨s, hs⟩ := Option.isSome_iff_exists.1 (hk.session_iff.2 hst)
    exact hf.reachable.running_of_session c hs
  refine ⟨fun request valid hv htr hs => ?_, fun segments live hc => ?_, fun message hc => ?_,
    fun hc => ⟨fun message => ?_, ?_⟩, fun s hs hseg => stats_none_of_segmented hk hs hseg,
    fun s hs hseg input hb hd => step_connects_none c hf hs hseg hb hd⟩
  · refine ⟨_, connect_run_begun c.journaled hv hs, ?_⟩
    simp only [Act.startTransport, htr]
    exact Act.startSegmented_start c (begun_session c.journaled m valid) rfl
      (begun_status c.journaled m valid) valid
  · rw [step_current c.journaled m _ rfl (hr (.inl hc))]
    exact Act.markConnected_shows c hc
  · rw [step_current c.journaled m _ rfl (hr (.inl hc))]
    exact Act.onEngineEvent_error_connecting c message hc
  · rw [step_current c.journaled m _ rfl (hr (.inr hc))]
    exact Act.onEngineEvent_error_of_ne c.journaled message (by simp [hc])
  · rw [step_current c.journaled m _ rfl (hr (.inr hc))]
    rfl

/-- The segmented bootstrap holds once a viewer asked to pull a stream from a local server. -/
theorem start_segmented_bootstrap :
    let c := Scenario.World.collaborators true true
    let m := (start default ({}, [])).step c.journaled
      (.command (.connect ⟨"live", "[::1]:8080", .segmentedPull⟩))
    Faithful c m [] ∧ SegmentedBootstrap c m [] :=
  ⟨.command _ (.start _ _), segmented_bootstrap _ (.command _ (.start _ _))⟩

end Machine

end LiveViewer
