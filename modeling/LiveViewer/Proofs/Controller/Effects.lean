import LiveViewer.Controller.Command

/-!
# What the controller's actions do to its state

The controller's handlers are actions of `Act W`, a state monad over the controller and its
world. This file gives each of them its effect on the controller state, so that the proofs about
whole steps cite one lemma per action and never unfold an action again.

The primitives (`update`, `current`, `touch`, `ask`, `log`, `publish`, `setOverlay`, `spawn`) get
`*_run` lemmas that compute them outright; they are `simp` lemmas, and together with
`StateT.run_bind` they execute a `do` block symbolically. The compound actions get `*_ctl`
lemmas whose right-hand sides are the controller-level functions of `Controller` below:
`withoutTimers` (every timer stopped), `released` (the live session and what hangs on it gone),
`ended` (a session ended after a failure), and `disconnected` (the explicit disconnect).

An action's effect on the world is not described here: it depends on the world, and the proofs
that need it observe it through a journal of calls (`Journal.lean`).
-/

namespace LiveViewer

namespace Controller

/-- The controller with every timer stopped. -/
@[simp] def withoutTimers (k : Controller) : Controller := { k with timers := {} }

/-- The controller after its live session, if there is one, was released: the session, the
stats timer, the bitrate baseline and the derived figures are gone. -/
def released (k : Controller) : Controller :=
  match k.session with
  | none => k
  | some _ =>
    { k with
      session := none
      timers := { k.timers with stats := none }
      sampler := k.sampler.reset
      stats := {} }

/-- The controller with one more entry in its log book. -/
@[simp] def logged (k : Controller) (level : Level) (message : String) : Controller :=
  { k with logBook := k.logBook.push ⟨level, message⟩ }

/-- The controller after publishing its snapshot. -/
@[simp] def publishNow (k : Controller) : Controller := { k with published := k.snapshot }

/-- The controller after its session ended on a failure: timers stopped, session released,
status Disconnected with its overlay, and all of it published. -/
def ended (k : Controller) : Controller :=
  { k.withoutTimers.released with
    status := .disconnected, overlay := some disconnectedOverlay }.publishNow

/-- The controller after an explicit disconnect: timers stopped and a new generation; a live
session is released, logged and shown as Disconnected, and otherwise only a status other than
Idle becomes Disconnected. -/
def disconnected (k : Controller) : Controller :=
  let k' := { k.withoutTimers with generation := k.generation + 1 }
  match k.session with
  | none => (if k.status = .idle then k' else { k' with status := .disconnected }).publishNow
  | some _ =>
    ({ k'.released with status := .disconnected, overlay := some disconnectedOverlay }.logged
      .info "Disconnected").publishNow

@[simp] theorem released_none {k : Controller} (h : k.session = none) : k.released = k := by
  simp [released, h]

@[simp] theorem released_session (k : Controller) : k.released.session = none := by
  unfold released; split <;> simp_all

@[simp] theorem released_status (k : Controller) : k.released.status = k.status := by
  unfold released; split <;> rfl

@[simp] theorem released_transport (k : Controller) : k.released.transport = k.transport := by
  unfold released; split <;> rfl

@[simp] theorem released_generation (k : Controller) :
    k.released.generation = k.generation := by
  unfold released; split <;> rfl

@[simp] theorem released_running (k : Controller) : k.released.running = k.running := by
  unfold released; split <;> rfl

@[simp] theorem released_config (k : Controller) : k.released.config = k.config := by
  unfold released; split <;> rfl

/-- Releasing a live session stops the stats timer and keeps the other two. -/
@[simp] theorem released_timers (k : Controller) :
    k.released.timers =
      { k.timers with stats := if k.session.isSome then none else k.timers.stats } := by
  cases h : k.session <;> simp [released, h]

/-- A disconnect always moves to the next generation. -/
@[simp] theorem disconnected_generation (k : Controller) :
    k.disconnected.generation = k.generation + 1 := by
  unfold disconnected
  split
  · split <;> simp
  · simp

/-- A disconnect leaves no session and no reconnect pending. -/
@[simp] theorem disconnected_session (k : Controller) : k.disconnected.session = none := by
  unfold disconnected
  split
  · split <;> simp_all
  · simp

@[simp] theorem disconnected_reconnect (k : Controller) :
    k.disconnected.timers.reconnect = none := by
  unfold disconnected
  split
  · split <;> simp
  · simp

/-- An ended session keeps its generation. -/
@[simp] theorem ended_generation (k : Controller) : k.ended.generation = k.generation := by
  simp [ended]

@[simp] theorem ended_session (k : Controller) : k.ended.session = none := by
  simp [ended]

@[simp] theorem ended_reconnect (k : Controller) : k.ended.timers.reconnect = none := by
  simp [ended]

end Controller

namespace Collaborators

variable {W : Type}

/-- What stopping the timers `t` does to the world: each running timer is aborted, the stats
timer first, then the viewer-count timer, then the reconnect timer. -/
def stopTimers (c : Collaborators W) (t : Timers) (w : W) : W :=
  let w := match t.stats with
    | some id => c.abort id w
    | none => w
  let w := match t.viewerCount with
    | some id => c.abort id w
    | none => w
  match t.reconnect with
  | some (id, _) => c.abort id w
  | none => w

/-- What releasing session `s` does to the world, `stats` being the stats timer: its producers
are stopped, then the stats timer if it runs, its segment engine if it has one, its peer session
if it has one and the sending end of its signaling link if it still holds it; last the surface is
unbound. -/
def release (c : Collaborators W) (s : ActiveSession) (stats : Option Nat) (w : W) : W :=
  let w := s.tasks.foldl (fun w t => c.abort t w) w
  let w := match stats with
    | some id => c.abort id w
    | none => w
  let w := match s.playback with
    | some (.engine e) => c.stopEngine e w
    | _ => w
  let w := match s.peer with
    | some p => c.closePeer p w
    | none => w
  let w := match s.signaling with
    | some (link, channel) => if channel.holding then c.dropSender link w else w
    | none => w
  c.clearSource w

/-- What stopping every timer of `k` and releasing its live session do to the world: the start
of every disconnect, every accepted connect and every ended session. -/
def teardown (c : Collaborators W) (k : Controller) (w : W) : W :=
  let w := c.stopTimers k.timers w
  match k.session with
  | none => w
  | some s => c.release s none w

end Collaborators

namespace Act

variable {W : Type} (c : Collaborators W)

/-! ## The primitives -/

@[simp] theorem pure_fst {α β : Type} (p : α × β) : (pure p : Id (α × β)).1 = p.1 := rfl

@[simp] theorem pure_snd {α β : Type} (p : α × β) : (pure p : Id (α × β)).2 = p.2 := rfl

/-- A step of `Act` runs in `Id`, where binding is application. -/
@[simp] theorem id_bind {α β : Type} (x : Id α) (f : α → Id β) : x >>= f = f x := rfl

-- Stated with the functor of `Id`'s monad, the one the `StateT.run` lemmas produce; instance
-- search alone may find another (through `Traversable`) where more instances are in scope.
@[simp] theorem id_map {α β : Type} (x : Id α) (f : α → β) :
    @Functor.map Id (@Applicative.toFunctor Id (@Monad.toApplicative Id Id.instMonad)) α β f x =
      f x := rfl

@[simp] theorem update_run (f : Controller → Controller) (m : Machine W) :
    (update f).run m = pure ((), { m with ctl := f m.ctl }) := rfl

@[simp] theorem current_run (m : Machine W) :
    (current : Act W Controller).run m = pure (m.ctl, m) := rfl

@[simp] theorem touch_run (f : W → W) (m : Machine W) :
    (touch f).run m = pure ((), { m with world := f m.world }) := rfl

@[simp] theorem ask_run {α : Type} (f : W → α × W) (m : Machine W) :
    (ask f).run m = pure ((f m.world).1, { m with world := (f m.world).2 }) := rfl

@[simp] theorem log_run (level : Level) (message : String) (m : Machine W) :
    (log c level message).run m =
      pure ((), ⟨m.ctl.logged level message, c.record ⟨level, message⟩ m.world⟩) := rfl

@[simp] theorem publish_run (m : Machine W) :
    (publish : Act W Unit).run m = pure ((), { m with ctl := m.ctl.publishNow }) := rfl

@[simp] theorem setOverlay_run (overlay : Option String) (m : Machine W) :
    (setOverlay c overlay).run m =
      pure ((), ⟨{ m.ctl with overlay }, c.showOverlay overlay m.world⟩) := rfl

@[simp] theorem spawn_run (p : Producer) (m : Machine W) :
    (spawn c p).run m = pure ((c.spawn m.ctl.generation p m.world).1,
      { m with world := (c.spawn m.ctl.generation p m.world).2 }) := rfl

@[simp] theorem updateSession_run (f : ActiveSession → ActiveSession) (m : Machine W) :
    (updateSession f).run m =
      pure ((), { m with ctl := { m.ctl with session := m.ctl.session.map f } }) := rfl

@[simp] theorem updateTimers_run (f : Timers → Timers) (m : Machine W) :
    (updateTimers f).run m =
      pure ((), { m with ctl := { m.ctl with timers := f m.ctl.timers } }) := rfl

/-- A loop that acts on the world once per number only changes the world. -/
theorem touchAll_run (f : Nat → W → W) (ids : List Nat) (m : Machine W) :
    (ids.foldlM (fun _ t => touch (f t)) ()).run m =
      pure ((), { m with world := ids.foldl (fun w t => f t w) m.world }) := by
  induction ids generalizing m with
  | nil => rfl
  | cons t ts ih => simp [List.foldlM_cons, ih]

/-! ## Timers and teardown -/

theorem stats_none_eta {t : Timers} (h : t.stats = none) : { t with stats := none } = t := by
  cases t; simp_all

theorem cancelStats_ctl (m : Machine W) :
    ((cancelStats c).run m).2.ctl = { m.ctl with timers := { m.ctl.timers with stats := none } } := by
  obtain ⟨⟨_, _, _, _, _, _, _, _, _, ⟨stats, _, _⟩, _, _⟩, _⟩ := m
  cases stats <;> rfl

/-- Stopping every timer answers whether a reconnect was pending. -/
theorem cancelAll_fst (m : Machine W) :
    ((cancelAll c).run m).1 = m.ctl.timers.reconnect.isSome := by
  obtain ⟨⟨_, _, _, _, _, _, _, _, _, ⟨stats, viewer, reconnect⟩, _, _⟩, _⟩ := m
  cases stats <;> cases viewer <;> cases reconnect <;> rfl

theorem cancelAll_ctl (m : Machine W) :
    ((cancelAll c).run m).2.ctl = m.ctl.withoutTimers := by
  obtain ⟨⟨_, _, _, _, _, _, _, _, _, ⟨stats, viewer, reconnect⟩, _, _⟩, _⟩ := m
  cases stats <;> cases viewer <;> cases reconnect <;> rfl

/-- Releasing answers whether there was a live session. -/
theorem releaseSession_fst (m : Machine W) :
    ((releaseSession c).run m).1 = m.ctl.session.isSome := by
  unfold releaseSession cancelStats
  cases h : m.ctl.session with
  | none => simp [h]
  | some s =>
    cases hs : m.ctl.timers.stats <;> simp [h, hs, touchAll_run] <;> (repeat' split) <;> simp

theorem releaseSession_ctl (m : Machine W) :
    ((releaseSession c).run m).2.ctl = m.ctl.released := by
  unfold releaseSession cancelStats
  cases h : m.ctl.session with
  | none => simp [h]
  | some s =>
    cases hs : m.ctl.timers.stats <;>
      simp [h, hs, touchAll_run, Controller.released] <;> (repeat' split) <;>
      simp [stats_none_eta, hs]

/-- Stopping every timer aborts the running ones: the stats timer, then the viewer-count timer,
then the reconnect timer. -/
theorem cancelAll_world (m : Machine W) :
    ((cancelAll c).run m).2.world = c.stopTimers m.ctl.timers m.world := by
  obtain ⟨⟨_, _, _, _, _, _, _, _, _, ⟨stats, viewer, reconnect⟩, _, _⟩, _⟩ := m
  cases stats <;> cases viewer <;> cases reconnect <;> rfl

/-- Releasing acts on the world exactly as `Collaborators.release` says, and not at all without a
live session. -/
theorem releaseSession_world (m : Machine W) :
    ((releaseSession c).run m).2.world =
      match m.ctl.session with
      | none => m.world
      | some s => c.release s m.ctl.timers.stats m.world := by
  unfold releaseSession cancelStats
  cases h : m.ctl.session with
  | none => simp [h]
  | some s =>
    cases hs : m.ctl.timers.stats <;>
      simp [h, hs, touchAll_run, Collaborators.release] <;> (repeat' split) <;> simp_all

theorem endSession_ctl (m : Machine W) : ((endSession c).run m).2.ctl = m.ctl.ended := by
  simp only [endSession, StateT.run_bind]
  simp [cancelAll_ctl, releaseSession_ctl, Controller.ended]

theorem failSetup_ctl (e : ViewerError) (m : Machine W) :
    ((failSetup c e).run m).2.ctl = (m.ctl.logged .error e.message).ended := by
  simp only [failSetup, StateT.run_bind]
  simp [endSession_ctl]

/-- Stopping the timers and then releasing is the teardown: the stats timer is stopped with the
other timers, so the release finds none. -/
theorem release_after_cancelAll (m : Machine W) :
    ((releaseSession c).run ((cancelAll c).run m).2).2.world = c.teardown m.ctl m.world := by
  rw [releaseSession_world, cancelAll_ctl, cancelAll_world]
  unfold Collaborators.teardown
  cases h : m.ctl.session <;> simp [h]

theorem endSession_world (m : Machine W) :
    ((endSession c).run m).2.world =
      c.showOverlay (some disconnectedOverlay) (c.teardown m.ctl m.world) := by
  simp only [endSession, StateT.run_bind, id_bind, update_run, setOverlay_run, publish_run,
    pure_snd]
  rw [release_after_cancelAll]

theorem failSetup_world (e : ViewerError) (m : Machine W) :
    ((failSetup c e).run m).2.world =
      c.showOverlay (some disconnectedOverlay)
        (c.teardown m.ctl (c.record ⟨.error, e.message⟩ m.world)) := by
  simp only [failSetup, StateT.run_bind, id_bind, log_run, pure_snd]
  rw [endSession_world]
  rfl

/-- A disconnect tears down; only when a session was live does it show and log the end. -/
theorem disconnect_world (m : Machine W) :
    ((disconnect c).run m).2.world =
      match m.ctl.session with
      | none => c.teardown m.ctl m.world
      | some _ =>
        c.record ⟨.info, "Disconnected"⟩
          (c.showOverlay (some disconnectedOverlay) (c.teardown m.ctl m.world)) := by
  simp only [disconnect, StateT.run_bind, id_bind, update_run, pure_snd, releaseSession_fst,
    cancelAll_ctl, cancelAll_world]
  unfold Collaborators.teardown
  cases h : m.ctl.session with
  | none =>
    simp only [Controller.withoutTimers, h, Option.isSome_none, Bool.not_false, if_true,
      StateT.run_bind, current_run, id_bind, pure_fst, pure_snd]
    split <;> simp [releaseSession_world]
  | some s => simp [h, releaseSession_world]

theorem disconnect_ctl (m : Machine W) : ((disconnect c).run m).2.ctl = m.ctl.disconnected := by
  simp only [disconnect, StateT.run_bind]
  cases h : m.ctl.session with
  | none =>
    by_cases hi : m.ctl.status = .idle <;>
      simp [cancelAll_ctl, releaseSession_ctl, releaseSession_fst, Controller.disconnected,
        Controller.withoutTimers, h, hi]
  | some s =>
    simp [cancelAll_ctl, releaseSession_ctl, releaseSession_fst, Controller.disconnected,
      Controller.withoutTimers, Controller.released, h]

theorem stop_ctl (m : Machine W) :
    ((stop c).run m).2.ctl = { m.ctl.disconnected with running := false } := by
  simp only [stop, StateT.run_bind]
  simp [disconnect_ctl]

/-- A playback observation logs an error and sets the overlay, nothing else. -/
theorem handlePlayback_ctl (event : PlaybackEvent) (m : Machine W) :
    ((handlePlayback c event).run m).2.ctl =
      let k := match event with
        | .error message => m.ctl.logged .error (ViewerError.playback message).message
        | _ => m.ctl
      { k with overlay := event.overlayText }.publishNow := by
  cases event <;> simp [handlePlayback]

/-- Scheduling a reconnect fills the reconnect slot with the new timer and the request. -/
theorem scheduleReconnect_ctl (request : ConnectRequest) (delayMs : Nat) (m : Machine W) :
    ((scheduleReconnect c request delayMs).run m).2.ctl =
      let id := (c.spawn m.ctl.generation (.reconnectTimer delayMs) m.world).1
      { m.ctl with timers := { m.ctl.timers with reconnect := some (id, request) } } := by
  unfold scheduleReconnect
  cases h : m.ctl.timers.reconnect <;> simp [h]

/-- The stats timer starts only when none runs, the transport is peer to peer and the session
has a peer; starting it forgets the bitrate baseline. -/
theorem startStatsSampler_ctl (m : Machine W) :
    ((startStatsSampler c).run m).2.ctl =
      match m.ctl.timers.stats, m.ctl.transport, m.ctl.session.bind (·.peer) with
      | none, some .peerToPeer, some peer =>
        let id := (c.spawn m.ctl.generation (.statsTimer peer m.ctl.config.statsPeriod) m.world).1
        { m.ctl with sampler := m.ctl.sampler.reset, timers := { m.ctl.timers with stats := some id } }
      | _, _, _ => m.ctl := by
  unfold startStatsSampler
  cases hs : m.ctl.timers.stats with
  | some _ => simp [hs]
  | none =>
    cases ht : m.ctl.transport with
    | none => simp [hs, ht]
    | some t =>
      cases t with
      | segmentedPull => simp [hs, ht]
      | peerToPeer => cases hp : m.ctl.session.bind (·.peer) <;> simp [hs, ht, hp]

/-- The viewer-count timer starts only when none runs, a stream information source is there
and a session is live. -/
theorem startViewerCountTimer_ctl (m : Machine W) :
    ((startViewerCountTimer c).run m).2.ctl =
      match m.ctl.timers.viewerCount, c.streamInfo, m.ctl.session with
      | none, true, some s =>
        let p := Producer.viewerTimer s.request.serverEndpoint s.request.streamKey
          m.ctl.config.viewerCountPeriod
        let id := (c.spawn m.ctl.generation p m.world).1
        { m.ctl with timers := { m.ctl.timers with viewerCount := some id } }
      | _, _, _ => m.ctl := by
  unfold startViewerCountTimer
  cases hv : m.ctl.timers.viewerCount with
  | some _ => simp [hv]
  | none =>
    cases hi : c.streamInfo with
    | false => simp
    | true => cases hs : m.ctl.session <;> simp [hv, hs]

/-! ## Connected, failed, counted -/

/-- Marking connected does nothing at all unless a session is connecting. -/
theorem markConnected_of_ne {m : Machine W} (h : m.ctl.status ≠ .connecting) :
    ((markConnected c).run m).2 = m := by
  simp [markConnected, h]

/-- A connecting session becomes Connected: the overlay is hidden, the change logged and
published, and the viewer-count timer may start. -/
theorem markConnected_ctl {m : Machine W} (h : m.ctl.status = .connecting) :
    ∃ viewer : Option Nat, ((markConnected c).run m).2.ctl =
      ({ m.ctl with
        status := .connected
        overlay := none
        timers := { m.ctl.timers with viewerCount := viewer } }.logged .info "Connected").publishNow := by
  simp only [markConnected, StateT.run_bind, current_run, h, id_bind, pure_fst, pure_snd,
    bne_self_eq_false, Bool.false_eq_true, if_false, update_run, setOverlay_run, log_run,
    publish_run]
  rw [startViewerCountTimer_ctl]
  split
  · exact ⟨some _, rfl⟩
  · exact ⟨_, rfl⟩

/-- A transport failure logs the error, ends the session and, when a session was live,
schedules one reconnect with its request. -/
theorem transportFailure_ctl (state : PeerState) (m : Machine W) :
    ∃ id, ((transportFailure c state).run m).2.ctl =
      let k := (m.ctl.logged .error
        (ViewerError.transport ("peer connection " ++ state.label)).message).ended
      match m.ctl.session with
      | none => k
      | some s =>
        { k.logged .info ("Reconnecting in " ++ toString m.ctl.config.reconnectDelayMs ++ " ms") with
          timers := { k.timers with reconnect := some (id, s.request) } } := by
  simp only [transportFailure, StateT.run_bind]
  cases h : m.ctl.session with
  | none => simp [h, endSession_ctl]
  | some s =>
    simp [h, endSession_ctl, scheduleReconnect_ctl, Controller.ended]

/-- A stats reading counts only while connected: it moves the sampler and sets the bitrate and
the latency. -/
theorem onStatsReport_ctl (report : Option InboundReport) (m : Machine W) :
    ((onStatsReport report : Act W Unit).run m).2.ctl =
      match m.ctl.status, report with
      | .connected, some r =>
        let sampled := m.ctl.sampler.sample ⟨r.bytesReceived, r.timestampMs⟩
        { m.ctl with
          sampler := sampled.2
          stats := { m.ctl.stats with
            bitrateKbps := sampled.1, latencyMs := latencyOf r.roundTripMs } }.publishNow
      | _, _ => m.ctl := by
  unfold onStatsReport
  cases hs : m.ctl.status <;> cases report <;> simp [hs]

/-- A viewer count is shown as soon as it arrives. -/
theorem onViewerCount_ctl (result : Except String UInt32) (m : Machine W) :
    ((onViewerCount result : Act W Unit).run m).2.ctl =
      match result with
      | .ok count => { m.ctl with stats := { m.ctl.stats with viewerCount := some count } }.publishNow
      | .error _ => m.ctl := by
  cases result <;> simp [onViewerCount]

/-! ## Starting a session -/

/-- Starts the transport that `request` asks for: the signaling open of a peer-to-peer session,
the playlist of a segmented one. An accepted connect ends with it. -/
def startTransport (request : ConnectRequest) : Act W Unit :=
  match request.transport with
  | .peerToPeer => openSignaling c request
  | .segmentedPull => startSegmented c request

/-- The info entry a connect writes when its session begins. -/
def connectingMessage (request : ConnectRequest) : String :=
  "Connecting to stream '" ++ request.streamKey ++ "' at " ++ request.serverEndpoint ++ " via " ++
    request.transport.label

end Act

/-- The controller at the point where an accepted connect has begun its session: timers stopped,
the old session released, a new generation with a fresh session for `request`, Connecting with
its overlay, published and logged. -/
def Controller.begun (k : Controller) (request : ConnectRequest) : Controller :=
  let k := k.withoutTimers.released
  ({ k with
    generation := k.generation + 1
    session := some { generation := k.generation + 1, request }
    status := .connecting
    transport := some request.transport
    overlay := some connectingOverlay }.publishNow).logged .info (Act.connectingMessage request)

/-- A begun session belongs to the generation after the current one. -/
@[simp] theorem Controller.begun_generation (k : Controller) (request : ConnectRequest) :
    (k.begun request).generation = k.generation + 1 := by
  simp [Controller.begun]

namespace Act

variable {W : Type} (c : Collaborators W)

/-- A request that fails validation is refused with one error entry in the log, and nothing
else happens. -/
theorem connect_run_invalid {request : ConnectRequest} {field : RequiredField}
    (h : request.validated = .error field) (m : Machine W) :
    (connect c request).run m =
      pure (.error (.validation field),
        ⟨m.ctl.logged .error (ViewerError.validation field).message,
          c.record ⟨.error, (ViewerError.validation field).message⟩ m.world⟩) := by
  simp [connect, h]
  rfl

/-- While an attempt is in progress a valid request is refused, and nothing happens. -/
theorem connect_run_busy {request valid : ConnectRequest} (h : request.validated = .ok valid)
    {m : Machine W} (hs : m.ctl.status = .connecting) :
    (connect c request).run m = pure (.error .connectInProgress, m) := by
  simp [connect, h, hs]

/-- An accepted request begins a new session and starts its transport; the connect succeeds
whatever the transport does next. -/
theorem connect_run_accepted {request valid : ConnectRequest} (h : request.validated = .ok valid)
    {m : Machine W} (hs : m.ctl.status ≠ .connecting) :
    (connect c request).run m =
      let released := ((releaseSession c).run ((cancelAll c).run m).2).2
      let world := c.record ⟨.info, connectingMessage valid⟩
        (c.showOverlay (some connectingOverlay) released.world)
      pure (.ok (), ((startTransport c valid).run ⟨m.ctl.begun valid, world⟩).2) := by
  have hb : (m.ctl.status == Status.connecting) = false := by simp [hs]
  simp only [connect, h, StateT.run_bind, current_run, id_bind, pure_fst, pure_snd, hb,
    Bool.false_eq_true, if_false, update_run, setOverlay_run, publish_run, log_run]
  -- The code's match on the transport is `startTransport`; the state it starts from is `begun`.
  split
  all_goals
    rename_i ht
    simp only [StateT.run_bind, id_bind, StateT.run_pure, cancelAll_ctl, releaseSession_ctl,
      startTransport, ht]
    unfold Controller.begun connectingMessage
    rw [ht]

/-- Binding a playlist only acts on the world. -/
theorem attachSegmented_ctl (manifest : Url) (m : Machine W) :
    ((attachSegmented c manifest).run m).2.ctl = m.ctl := by
  unfold attachSegmented
  cases hn : c.nativeHls m.world
  · cases hs : c.startEngine with
    | none => simp [hn]
    | some start =>
      cases hr : (start manifest (c.setSource (.segmentFeed manifest) m.world)).1 <;> simp [hn, hr]
  · simp [hn]

/-- Sending a signal message only acts on the world. -/
theorem sendSignal_ctl (msg : SignalMessage) (m : Machine W) :
    ((sendSignal c msg).run m).2.ctl = m.ctl := by
  unfold sendSignal
  cases h : m.ctl.session.bind (·.signaling) with
  | none => simp [h]
  | some sig =>
    obtain ⟨link, channel⟩ := sig
    cases hh : channel.holding <;> simp [h, hh]

/-- Negotiation either changes nothing in the controller or attaches the new peer session and
its pump to the live session. -/
theorem startNegotiation_ctl (m : Machine W) :
    ((startNegotiation c).run m).2.ctl = m.ctl ∨
      ∃ peer pump, ((startNegotiation c).run m).2.ctl =
        { m.ctl with session := m.ctl.session.map fun s =>
          { s with peer := some peer, tasks := s.tasks ++ [pump] } } := by
  unfold startNegotiation
  simp only [StateT.run_bind, current_run, ask_run, id_bind, pure_fst, pure_snd]
  split
  · simp
  · rename_i peer _
    simp only [spawn_run, current_run, id_bind, pure_fst, pure_snd, StateT.run_bind]
    split
    · simp
    · rename_i s hs
      right
      refine ⟨peer, (c.spawn m.ctl.generation (.peerPump peer)
        (c.createPeer m.ctl.config.iceServers m.world).2).1, ?_⟩
      simp only [updateSession_run, ask_run, id_bind, pure_fst, pure_snd, StateT.run_bind]
      split
      · simp [hs]
      · simp [sendSignal_ctl, hs]

/-! ## Events -/

/-- What the loop does with an event of the current generation: it hands it to its handler. -/
def dispatch (kind : EventKind) : Act W Unit :=
  match kind with
  | .signalingOpened url result => onSignalingOpened c url result
  | .link event => onLinkEvent c event
  | .peer event => onPeerEvent c event
  | .engine event => onEngineEvent c event
  | .statsReport report => onStatsReport report
  | .viewerCount result => onViewerCount result
  | .reconnectDue => onReconnectDue c

/-- What is left in the world of an event of another generation: a signaling link it brought is
given up, and nothing else happens. -/
def discard (kind : EventKind) (w : W) : W :=
  match kind with
  | .signalingOpened _ (.ok link) => c.dropLink link w
  | _ => w

/-- An event of the current generation goes to its handler. -/
theorem handleEvent_current {e : SessionEvent} {m : Machine W}
    (h : e.generation = m.ctl.generation) :
    (handleEvent c e).run m = (dispatch c e.kind).run m := by
  simp only [handleEvent, StateT.run_bind, current_run, id_bind, pure_fst, pure_snd, h,
    bne_self_eq_false, Bool.false_eq_true, if_false]
  rfl

/-- An event of another generation leaves the controller as it was; only a link it brought is
given up. -/
theorem handleEvent_stale {e : SessionEvent} {m : Machine W}
    (h : e.generation ≠ m.ctl.generation) :
    (handleEvent c e).run m = pure ((), { m with world := discard c e.kind m.world }) := by
  have hb : (e.generation != m.ctl.generation) = true := by simpa using h
  simp only [handleEvent, StateT.run_bind, current_run, id_bind, pure_fst, pure_snd, hb, if_true]
  obtain ⟨g, kind⟩ := e
  cases kind with
  | signalingOpened url result => cases result <;> simp [discard]
  | _ => simp [discard]

end Act

end LiveViewer
