import LiveViewer.Proofs.Controller.Isolation
import LiveViewer.Proofs.Session.Request

/-!
# The reconnect policy

A connected peer session that fails or loses its connection ends, and one reconnect to the same
request is scheduled: the reconnect slot of the timers then holds the timer's number and the
request. The reconnect timer's event empties the slot and, when the controller is still
disconnected, connects to that request. Whatever else touches the slot empties it: a disconnect,
a shutdown, and a connect that gets past validation.

The proofs go by the slot, handler by handler. The event handlers other than the transport
failure and the reconnect timer carry on (`Controller.Continues`), so they keep the slot or empty
it (`dispatch_continues`); the transport failure fills it with the failed session's request
(`transportFailure_reconnect`); the reconnect timer empties it (`onReconnectDue_reconnect`); a
connect empties it when it accepts the request (`connect_reconnect`).
`Controller.RequestsValidated` keeps every request the controller holds validated, so the request
a reconnect connects to passes validation again, unchanged.

Counting goes by the slot as well: a turn that connects on its own empties a full slot, and only
a transport failure fills an empty one (`Machine.step_pending`), so along any run the automatic
connects never outnumber the transport failures, plus one for a reconnect pending at the start
(`Machine.reconnects_le_failures`). `Machine.reconnect_policy` gathers the policy for every
reachable state.
-/

namespace LiveViewer

namespace Controller

/-- The event ends a connected peer session: its peer failed or lost its connection while the
controller was connected. -/
def isTransportFailure (k : Controller) : EventKind → Bool
  | .peer (.stateChanged state) => k.status == .connected && state.fails
  | _ => false

theorem isTransportFailure_status {k : Controller} {kind : EventKind}
    (h : k.isTransportFailure kind = true) : k.status = .connected := by
  unfold isTransportFailure at h
  split at h
  · simp_all
  · cases h

/-- Nothing is pending unless the controller is disconnected. -/
theorem Consistent.reconnect_eq_none {k : Controller} (hk : k.Consistent)
    (hs : k.status ≠ .disconnected) : k.timers.reconnect = none := by
  cases hr : k.timers.reconnect with
  | none => rfl
  | some pending => exact absurd (hk.reconnect_timer (by simp [hr])) hs

/-- A handler that carries on leaves an empty slot empty. -/
theorem Continues.reconnect_none {k k' : Controller} (hc : Continues k k')
    (h : k.timers.reconnect = none) : k'.timers.reconnect = none := by
  rcases hc.reconnect with he | he
  · rw [he, h]
  · exact he

/-- The requests a controller holds are validated ones: the live session's and the pending
reconnect's each validate to themselves. -/
structure RequestsValidated (k : Controller) : Prop where
  /-- The live session's request. -/
  session : ∀ s, k.session = some s → s.request.validated = .ok s.request
  /-- The pending reconnect's request. -/
  reconnect : ∀ id request, k.timers.reconnect = some (id, request) →
    request.validated = .ok request

namespace RequestsValidated

/-- A controller with no session and no pending reconnect holds no request. -/
theorem of_empty {k : Controller} (hs : k.session = none) (hr : k.timers.reconnect = none) :
    k.RequestsValidated where
  session := by simp [hs]
  reconnect := by simp [hr]

theorem start (config : ViewerConfig) : (Controller.start config).RequestsValidated :=
  of_empty rfl rfl

/-- Carrying on keeps the requests: a live session keeps its own, a pending reconnect stays or
goes. -/
theorem of_continues {k k' : Controller} (h : k.RequestsValidated) (hc : Continues k k') :
    k'.RequestsValidated where
  session := by
    intro s' hs'
    obtain ⟨s, hs, -, hr⟩ := hc.session s' hs'
    rw [hr]
    exact h.session s hs
  reconnect := by
    intro id request hr
    rcases hc.reconnect with he | he
    · exact h.reconnect id request (he ▸ hr)
    · simp [he] at hr

theorem disconnected (k : Controller) : k.disconnected.RequestsValidated :=
  of_empty (disconnected_session k) (disconnected_reconnect k)

/-- A begun session holds the validated request. -/
theorem begun (k : Controller) {request valid : ConnectRequest}
    (hv : request.validated = .ok valid) : (k.begun valid).RequestsValidated where
  session := by
    intro s hs
    simp only [Controller.begun, logged, publishNow, Option.some.injEq] at hs
    rw [← hs]
    exact ConnectRequest.validated_validated hv
  reconnect := by simp [Controller.begun]

end RequestsValidated

end Controller

namespace Act

open Controller

variable {W : Type} (c : Collaborators W)

/-! ## The slot, handler by handler -/

/-- A connect empties the slot exactly when it accepts the request. -/
theorem connect_reconnect (request : ConnectRequest) (m : Machine W) :
    ((connect c request).run m).2.ctl.timers.reconnect =
      if m.ctl.accepts request then none else m.ctl.timers.reconnect := by
  cases hv : request.validated with
  | error field =>
    rw [connect_run_invalid c hv]
    simp [Controller.accepts, hv, Except.isOk, Except.toBool]
  | ok valid =>
    by_cases hs : m.ctl.status = .connecting
    · rw [connect_run_busy c hv hs]
      simp [Controller.accepts, hs]
    · rw [connect_run_accepted c hv hs, if_pos (by simp [Controller.accepts, hv, hs,
        Except.isOk, Except.toBool])]
      -- The begun session starts with every timer stopped, and its transport adds no reconnect.
      exact (startTransport_continues c valid (.refl _)).reconnect_none
        (by simp [Controller.begun])

/-- In a consistent controller a connect empties the slot exactly when the request passes
validation: while a connect is in progress no reconnect is pending. -/
theorem connect_reconnect_of_consistent (request : ConnectRequest) {m : Machine W}
    (hk : m.ctl.Consistent) :
    ((connect c request).run m).2.ctl.timers.reconnect =
      if request.validated.isOk then none else m.ctl.timers.reconnect := by
  rw [connect_reconnect]
  by_cases hs : m.ctl.status = .connecting
  · simp [hk.reconnect_eq_none (by simp [hs])]
  · simp [Controller.accepts, hs]

/-- A transport failure of a live session fills the slot with that session's request; without a
session it only empties the slot. -/
theorem transportFailure_reconnect (state : PeerState) (m : Machine W) :
    ∃ id, ((transportFailure c state).run m).2.ctl.timers.reconnect =
      m.ctl.session.map fun s => (id, s.request) := by
  obtain ⟨id, he⟩ := transportFailure_ctl c state m
  refine ⟨id, ?_⟩
  rw [he]
  cases hs : m.ctl.session <;> simp

/-- The reconnect timer's event leaves the slot empty, whether it connects or not. -/
theorem onReconnectDue_reconnect (m : Machine W) :
    ((onReconnectDue c).run m).2.ctl.timers.reconnect = none := by
  unfold onReconnectDue
  cases hr : m.ctl.timers.reconnect with
  | none => simp [hr]
  | some pending =>
    obtain ⟨id, request⟩ := pending
    simp only [StateT.run_bind, current_run, id_bind, pure_fst, pure_snd, hr, updateTimers_run]
    split
    · simp
    · simp only [StateT.run_bind, log_run, id_bind, pure_snd]
      -- The connect starts from the emptied slot, and empties it or leaves it so.
      split
      · simp only [log_run, pure_snd, Controller.logged]
        rw [connect_reconnect]
        split <;> simp
      · simp only [StateT.run_pure, pure_snd]
        rw [connect_reconnect]
        split <;> simp

/-- When a reconnect is pending while disconnected and its request validates to itself, the
reconnect timer's event connects to that request: a session for it begins, Connecting and in the
next generation, and its transport starts. -/
theorem onReconnectDue_connects {m : Machine W} {id : Nat} {request : ConnectRequest}
    (hr : m.ctl.timers.reconnect = some (id, request)) (hs : m.ctl.status = .disconnected)
    (hv : request.validated = .ok request) :
    ∃ k w, ((onReconnectDue c).run m).2 = ((startTransport c request).run ⟨k, w⟩).2 ∧
      k.status = .connecting ∧ k.generation = m.ctl.generation + 1 ∧
      k.session.map (·.request) = some request := by
  unfold onReconnectDue
  simp only [StateT.run_bind, current_run, id_bind, pure_fst, pure_snd, hr, updateTimers_run,
    hs, bne_self_eq_false, Bool.false_eq_true, if_false, log_run]
  rw [connect_run_accepted c hv (by simp)]
  refine ⟨_, _, rfl, ?_, ?_, ?_⟩ <;> simp [Controller.begun]

/-! ## Events -/

/-- A transport failure is a change of the peer session's state, handled as such. -/
theorem dispatch_transportFailure {kind : EventKind} {m : Machine W}
    (h : m.ctl.isTransportFailure kind = true) :
    ∃ state, kind = .peer (.stateChanged state) ∧
      ((dispatch c kind).run m).2 = ((transportFailure c state).run m).2 := by
  have hs := isTransportFailure_status h
  cases kind with
  | peer event =>
    cases event with
    | stateChanged state =>
      refine ⟨state, rfl, ?_⟩
      have hf : state.fails = true := by simpa [isTransportFailure, hs] using h
      cases state <;> simp [PeerState.fails] at hf <;>
        simp [dispatch, onPeerEvent, onPeerState, hs]
    | _ => simp [isTransportFailure] at h
  | _ => simp [isTransportFailure] at h

theorem dispatch_of_isReconnectDue {kind : EventKind} (hd : kind.isReconnectDue = true) :
    dispatch c kind = onReconnectDue c := by
  cases kind with
  | reconnectDue => rfl
  | _ => simp [EventKind.isReconnectDue] at hd

/-- Every event other than a transport failure and the reconnect timer's carries on. -/
theorem dispatch_continues {kind : EventKind} {m : Machine W}
    (hf : m.ctl.isTransportFailure kind = false) (hd : kind.isReconnectDue = false) :
    Continues m.ctl ((dispatch c kind).run m).2.ctl := by
  cases kind with
  | signalingOpened url result => exact onSignalingOpened_continues c url result (.refl _)
  | link event => exact onLinkEvent_continues c event (.refl _)
  | peer event =>
    refine onPeerEvent_continues c event (.refl _) ?_
    rintro state rfl hfails hs
    simp [isTransportFailure, hfails, hs] at hf
  | engine event => exact onEngineEvent_continues c event (.refl _)
  | statsReport report => exact onStatsReport_continues report (.refl _)
  | viewerCount result => exact onViewerCount_continues result (.refl _)
  | reconnectDue => simp [EventKind.isReconnectDue] at hd

/-! ## Commands -/

/-- What a command does to the slot: a disconnect and a shutdown empty it, a connect empties it
when its request passes validation, a toggle unless it connects to a request that does not, and
a playback observation keeps it. A stopped controller keeps it too. -/
theorem handleCommand_reconnect (cmd : Command) {m : Machine W} (hk : m.ctl.Consistent) :
    ((handleCommand c cmd).run m).2.ctl.timers.reconnect =
      if m.ctl.running then
        match cmd with
        | .toggle =>
          if m.ctl.status.isRestartable && !m.ctl.config.connectRequest.validated.isOk
          then m.ctl.timers.reconnect else none
        | .connect request =>
          if request.validated.isOk then none else m.ctl.timers.reconnect
        | .disconnect | .shutdown => none
        | .playback _ => m.ctl.timers.reconnect
      else m.ctl.timers.reconnect := by
  unfold handleCommand
  simp only [StateT.run_bind, current_run, id_bind, pure_fst, pure_snd]
  split
  · rename_i hr
    simp_all
  · rename_i hr
    have hr' : m.ctl.running = true := by simpa using hr
    rw [if_pos hr']
    cases cmd with
    | toggle =>
      simp only [StateT.run_bind, current_run, id_bind, pure_fst, pure_snd]
      split
      · rename_i hs
        rw [connect_reconnect_of_consistent c _ hk]
        cases m.ctl.config.connectRequest.validated.isOk <;> simp [hs]
      · rename_i hs
        simp only [StateT.run_bind, StateT.run_pure, id_bind, pure_snd, disconnect_ctl]
        simp [hs]
    | connect request =>
      dsimp only
      exact connect_reconnect_of_consistent c request hk
    | disconnect =>
      simp only [StateT.run_bind, StateT.run_pure, id_bind, pure_snd, disconnect_ctl]
      simp
    | playback event =>
      simp only [StateT.run_bind, StateT.run_pure, id_bind, pure_snd, handlePlayback_ctl]
      split <;> simp
    | shutdown =>
      simp only [StateT.run_bind, StateT.run_pure, id_bind, pure_snd, stop_ctl]
      simp

/-! ## Validated requests -/

theorem connect_requestsValidated (request : ConnectRequest) {m : Machine W}
    (h : m.ctl.RequestsValidated) : ((connect c request).run m).2.ctl.RequestsValidated := by
  cases hv : request.validated with
  | error field =>
    rw [connect_run_invalid c hv]
    exact h.of_continues (.logged _ _ _)
  | ok valid =>
    by_cases hs : m.ctl.status = .connecting
    · rw [connect_run_busy c hv hs]
      exact h
    · rw [connect_run_accepted c hv hs]
      exact (RequestsValidated.begun _ hv).of_continues (startTransport_continues c valid (.refl _))

theorem transportFailure_requestsValidated (state : PeerState) {m : Machine W}
    (h : m.ctl.RequestsValidated) :
    ((transportFailure c state).run m).2.ctl.RequestsValidated := by
  obtain ⟨id, he⟩ := transportFailure_ctl c state m
  rw [he]
  cases hs : m.ctl.session with
  | none => exact .of_empty (by simp) (by simp)
  | some s =>
    -- The slot now holds the failed session's request, which was validated.
    refine ⟨by simp, ?_⟩
    intro id' request hr
    simp only [Option.some.injEq, Prod.mk.injEq] at hr
    rw [← hr.2]
    exact h.session s hs

theorem onReconnectDue_requestsValidated {m : Machine W} (h : m.ctl.RequestsValidated) :
    ((onReconnectDue c).run m).2.ctl.RequestsValidated := by
  unfold onReconnectDue
  cases hr : m.ctl.timers.reconnect with
  | none => simpa [hr] using h
  | some pending =>
    obtain ⟨id, request⟩ := pending
    simp only [StateT.run_bind, current_run, id_bind, pure_fst, pure_snd, hr, updateTimers_run]
    -- Emptying the slot keeps the session's request, and so does the log entry.
    have hl : (({ m.ctl with timers := { m.ctl.timers with reconnect := none } }).logged .info
        "Attempting automatic reconnect").RequestsValidated :=
      ⟨h.session, by simp⟩
    split
    · exact ⟨h.session, by simp⟩
    · simp only [StateT.run_bind, log_run, id_bind, pure_snd]
      split
      · simp only [log_run, pure_snd]
        refine (connect_requestsValidated c request ?_).of_continues (.logged _ _ _)
        exact hl
      · simp only [StateT.run_pure, pure_snd]
        refine connect_requestsValidated c request ?_
        exact hl

theorem dispatch_requestsValidated (kind : EventKind) {m : Machine W}
    (h : m.ctl.RequestsValidated) : ((dispatch c kind).run m).2.ctl.RequestsValidated := by
  cases hf : m.ctl.isTransportFailure kind
  · cases hd : kind.isReconnectDue
    · exact h.of_continues (dispatch_continues c hf hd)
    · rw [dispatch_of_isReconnectDue c hd]
      exact onReconnectDue_requestsValidated c h
  · obtain ⟨state, -, he⟩ := dispatch_transportFailure c hf
    rw [he]
    exact transportFailure_requestsValidated c state h

theorem handleEvent_requestsValidated (e : SessionEvent) {m : Machine W}
    (h : m.ctl.RequestsValidated) : ((handleEvent c e).run m).2.ctl.RequestsValidated := by
  by_cases hg : e.generation = m.ctl.generation
  · rw [handleEvent_current c hg]
    exact dispatch_requestsValidated c _ h
  · rw [handleEvent_stale c hg]
    exact h

theorem handleCommand_requestsValidated (cmd : Command) {m : Machine W}
    (h : m.ctl.RequestsValidated) : ((handleCommand c cmd).run m).2.ctl.RequestsValidated := by
  unfold handleCommand
  simp only [StateT.run_bind, current_run, id_bind, pure_fst, pure_snd]
  split
  · exact h
  · cases cmd with
    | toggle =>
      simp only [StateT.run_bind, current_run, id_bind, pure_fst, pure_snd]
      split
      · exact connect_requestsValidated c _ h
      · simp only [StateT.run_bind, StateT.run_pure, id_bind, pure_snd, disconnect_ctl]
        exact .disconnected _
    | connect request =>
      dsimp only
      exact connect_requestsValidated c request h
    | disconnect =>
      simp only [StateT.run_bind, StateT.run_pure, id_bind, pure_snd, disconnect_ctl]
      exact .disconnected _
    | playback event =>
      simp only [StateT.run_bind, StateT.run_pure, id_bind, pure_snd, handlePlayback_ctl]
      cases event <;> exact h.of_continues (.of_core rfl rfl rfl)
    | shutdown =>
      simp only [StateT.run_bind, StateT.run_pure, id_bind, pure_snd, stop_ctl]
      exact .of_empty (disconnected_session _) (disconnected_reconnect _)

end Act

namespace Machine

open Controller

variable {W : Type} (c : Collaborators W)

theorem step_requestsValidated {m : Machine W} (h : m.ctl.RequestsValidated) (input : Input) :
    (m.step c input).ctl.RequestsValidated := by
  cases input with
  | command cmd => exact Act.handleCommand_requestsValidated c cmd h
  | deliver e =>
    dsimp only [step]
    split
    · exact Act.handleEvent_requestsValidated c e h
    · exact h
  | hangUp =>
    dsimp only [step]
    split
    · rw [Act.stop_ctl]
      exact .of_empty (disconnected_session _) (disconnected_reconnect _)
    · exact h

theorem reachable_requestsValidated {m : Machine W} (h : Reachable c m) :
    m.ctl.RequestsValidated := by
  induction h with
  | start config world => exact .start config
  | step input _ ih => exact step_requestsValidated c ih input

/-! ## Turns -/

/-- The turn is a transport failure: the loop runs, and an event of the current generation ends
a connected peer session. -/
def failsTransport (k : Controller) : Input → Bool
  | .deliver e => k.running && e.generation == k.generation && k.isTransportFailure e.kind
  | _ => false

/-- The turn connects on its own: the loop runs, and the reconnect timer's event of the current
generation finds a reconnect pending while the controller is disconnected. -/
def reconnects (k : Controller) : Input → Bool
  | .deliver e =>
    k.running && e.generation == k.generation && e.kind.isReconnectDue &&
      k.timers.reconnect.isSome && k.status == .disconnected
  | _ => false

/-- The turns of a run: each input with the controller that takes it. -/
def turns (m : Machine W) : List Input → List (Controller × Input)
  | [] => []
  | input :: inputs => (m.ctl, input) :: turns (m.step c input) inputs

theorem failsTransport_eq_true {k : Controller} {input : Input} :
    failsTransport k input = true ↔ ∃ e, input = .deliver e ∧ k.running = true ∧
      e.generation = k.generation ∧ k.isTransportFailure e.kind = true := by
  cases input <;> simp [failsTransport, and_assoc]

theorem reconnects_eq_true {k : Controller} {input : Input} :
    reconnects k input = true ↔ ∃ e, input = .deliver e ∧ k.running = true ∧
      e.generation = k.generation ∧ e.kind.isReconnectDue = true ∧
      k.timers.reconnect.isSome = true ∧ k.status = .disconnected := by
  cases input <;> simp [reconnects, and_assoc]

/-- A transport failure fills the slot with the failed session's request. -/
theorem step_reconnect_of_failure {m : Machine W} (hk : m.ctl.Consistent) {input : Input}
    (hf : failsTransport m.ctl input = true) :
    ∃ s id, m.ctl.session = some s ∧
      (m.step c input).ctl.timers.reconnect = some (id, s.request) := by
  obtain ⟨e, rfl, hr, hg, hf⟩ := failsTransport_eq_true.1 hf
  obtain ⟨state, -, he⟩ := Act.dispatch_transportFailure c hf
  rw [step_current c m e hg hr, he]
  -- A connected controller has a live session.
  obtain ⟨s, hs⟩ := Option.isSome_iff_exists.1
    (hk.session_iff.2 (.inr (isTransportFailure_status hf)))
  obtain ⟨id, hid⟩ := Act.transportFailure_reconnect c state m
  exact ⟨s, id, hs, by rw [hid, hs]; rfl⟩

/-- Every other turn keeps the slot or empties it. -/
theorem step_reconnect_of_not_failure {m : Machine W} (hk : m.ctl.Consistent) {input : Input}
    (hf : failsTransport m.ctl input = false) :
    (m.step c input).ctl.timers.reconnect = m.ctl.timers.reconnect ∨
      (m.step c input).ctl.timers.reconnect = none := by
  cases input with
  | command cmd =>
    dsimp only [step]
    rw [Act.handleCommand_reconnect c cmd hk]
    split
    · cases cmd <;> simp only <;> (try split) <;> simp
    · exact .inl rfl
  | deliver e =>
    by_cases hg : e.generation = m.ctl.generation
    · by_cases hr : m.ctl.running = true
      · rw [step_current c m e hg hr]
        have hf' : m.ctl.isTransportFailure e.kind = false := by
          simpa [failsTransport, hr, hg] using hf
        -- Only the reconnect timer's event does not carry on, and it empties the slot.
        cases hd : e.kind.isReconnectDue
        · exact (Act.dispatch_continues c hf' hd).reconnect
        · rw [Act.dispatch_of_isReconnectDue c hd]
          exact .inr (Act.onReconnectDue_reconnect c m)
      · dsimp only [step]
        rw [if_neg hr]
        exact .inl rfl
    · rw [step_stale c m e hg]
      split <;> exact .inl rfl
  | hangUp =>
    dsimp only [step]
    split
    · rw [Act.stop_ctl]
      exact .inr (disconnected_reconnect _)
    · exact .inl rfl

/-- The reconnect timer's event of the current generation leaves no reconnect pending. -/
theorem step_reconnectDue {m : Machine W} (hr : m.ctl.running = true) :
    (m.step c (.deliver ⟨m.ctl.generation, .reconnectDue⟩)).ctl.timers.reconnect = none := by
  rw [step_current c m ⟨m.ctl.generation, .reconnectDue⟩ rfl hr]
  exact Act.onReconnectDue_reconnect c m

/-- One turn: connecting on its own uses up a pending reconnect, and only a transport failure
makes one pending. -/
theorem step_pending {m : Machine W} (hk : m.ctl.Consistent) (input : Input) :
    (if reconnects m.ctl input then 1 else 0) +
        (if (m.step c input).ctl.timers.reconnect.isSome then 1 else 0) ≤
      (if failsTransport m.ctl input then 1 else 0) +
        (if m.ctl.timers.reconnect.isSome then 1 else 0) := by
  cases hf : failsTransport m.ctl input
  · cases hd : reconnects m.ctl input
    · -- Neither: the slot stays or empties.
      rcases step_reconnect_of_not_failure c hk hf with h | h <;> simp [h]
    · -- The reconnect timer's event of a pending reconnect empties the slot.
      obtain ⟨e, rfl, hr, hg, hdue, hp, -⟩ := reconnects_eq_true.1 hd
      have hn : (m.step c (.deliver e)).ctl.timers.reconnect = none := by
        rw [step_current c m e hg hr, Act.dispatch_of_isReconnectDue c hdue]
        exact Act.onReconnectDue_reconnect c m
      simp [hp, hn]
  · -- A transport failure happens while connected, when no reconnect is pending.
    obtain ⟨e, rfl, -, -, hfail⟩ := failsTransport_eq_true.1 hf
    have hs := isTransportFailure_status hfail
    have hn := hk.reconnect_eq_none (by simp [hs])
    have hd : reconnects m.ctl (.deliver e) = false := by simp [reconnects, hs]
    simp only [hd, hn, Bool.false_eq_true, if_false, if_true, Option.isSome_none]
    split <;> omega

/-- Along any run, the automatic connects and a reconnect still pending at the end are no more
than the transport failures and a reconnect pending at the start. -/
theorem reconnects_le_failures {m : Machine W} (hk : m.ctl.Consistent) (inputs : List Input) :
    (m.turns c inputs).countP (fun t => reconnects t.1 t.2) +
        (if (m.run c inputs).ctl.timers.reconnect.isSome then 1 else 0) ≤
      (m.turns c inputs).countP (fun t => failsTransport t.1 t.2) +
        (if m.ctl.timers.reconnect.isSome then 1 else 0) := by
  induction inputs generalizing m with
  | nil => exact Nat.le_refl _
  | cons input inputs ih =>
    -- The step's own count, then the rest of the run from the consistent state it reaches.
    have hstep := step_pending c hk input
    have hrest := ih (step_consistent c hk input)
    rw [turns, List.countP_cons, List.countP_cons, run_cons]
    dsimp only
    omega

/-- The reconnect policy, from a state of the loop: what the next turn does to the reconnect
slot, and how the automatic connects of every run from here are bounded. -/
structure ReconnectPolicy (m : Machine W) : Prop where
  /-- A turn makes a reconnect pending that was not exactly when it is a transport failure. -/
  schedules_iff : ∀ input,
    ((m.step c input).ctl.timers.reconnect.isSome ∧
        (m.step c input).ctl.timers.reconnect ≠ m.ctl.timers.reconnect) ↔
      failsTransport m.ctl input = true
  /-- A transport failure schedules one reconnect, to the failed session's request, which
  passes validation unchanged. -/
  failure_schedules : ∀ input, failsTransport m.ctl input = true →
    ∃ s id, m.ctl.session = some s ∧ s.request.validated = .ok s.request ∧
      (m.step c input).ctl.timers.reconnect = some (id, s.request)
  /-- A disconnect, a shutdown and a connect whose request passes validation cancel a pending
  reconnect; a connect refused by validation and a playback observation keep it. -/
  command_reconnect : m.ctl.running = true → ∀ cmd,
    (m.step c (.command cmd)).ctl.timers.reconnect =
      match cmd with
      | .toggle =>
        if m.ctl.status.isRestartable && !m.ctl.config.connectRequest.validated.isOk
        then m.ctl.timers.reconnect else none
      | .connect request => if request.validated.isOk then none else m.ctl.timers.reconnect
      | .disconnect | .shutdown => none
      | .playback _ => m.ctl.timers.reconnect
  /-- The last holder letting go cancels it too. -/
  hangUp_reconnect : m.ctl.running = true → (m.step c .hangUp).ctl.timers.reconnect = none
  /-- The reconnect timer's event leaves no reconnect pending, so a scheduled reconnect connects
  at most once. -/
  due_clears : m.ctl.running = true →
    (m.step c (.deliver ⟨m.ctl.generation, .reconnectDue⟩)).ctl.timers.reconnect = none
  /-- The event of a pending reconnect connects to its request, which passes validation: the
  controller moves from Disconnected to a session for that request, Connecting in the next
  generation, and starts its transport. -/
  due_connects : m.ctl.running = true → ∀ id request,
    m.ctl.timers.reconnect = some (id, request) →
      request.validated = .ok request ∧ m.ctl.status = .disconnected ∧
      ∃ k w, m.step c (.deliver ⟨m.ctl.generation, .reconnectDue⟩) =
          ((Act.startTransport c request).run ⟨k, w⟩).2 ∧
        k.status = .connecting ∧ k.generation = m.ctl.generation + 1 ∧
        k.session.map (·.request) = some request
  /-- Along any run from here, no more automatic connects than transport failures, and one more
  for a reconnect already pending. -/
  reconnects_le : ∀ inputs,
    (m.turns c inputs).countP (fun t => reconnects t.1 t.2) ≤
      (m.turns c inputs).countP (fun t => failsTransport t.1 t.2) +
        if m.ctl.timers.reconnect.isSome then 1 else 0

theorem reconnect_policy {m : Machine W} (h : Reachable c m) : ReconnectPolicy c m := by
  have hk := reachable_consistent c h
  have hv := reachable_requestsValidated c h
  refine ⟨?_, ?_, ?_, ?_, fun hr => step_reconnectDue c hr, ?_, ?_⟩
  · intro input
    cases hf : failsTransport m.ctl input
    · -- Without a failure the slot stays or empties.
      simp only [Bool.false_eq_true, iff_false, not_and, not_not]
      intro hsome
      rcases step_reconnect_of_not_failure c hk hf with he | he
      · exact he
      · simp [he] at hsome
    · -- A failure happens while connected, with nothing pending, and fills the slot.
      obtain ⟨s, id, -, he⟩ := step_reconnect_of_failure c hk hf
      obtain ⟨e, rfl, -, -, hfail⟩ := failsTransport_eq_true.1 hf
      have hn := hk.reconnect_eq_none (by simp [isTransportFailure_status hfail])
      simp [he, hn]
  · intro input hf
    obtain ⟨s, id, hs, he⟩ := step_reconnect_of_failure c hk hf
    exact ⟨s, id, hs, hv.session s hs, he⟩
  · intro hr cmd
    show ((Act.handleCommand c cmd).run m).2.ctl.timers.reconnect = _
    rw [Act.handleCommand_reconnect c cmd hk, if_pos hr]
  · intro hr
    dsimp only [step]
    rw [if_pos hr, Act.stop_ctl]
    exact disconnected_reconnect _
  · intro hr id request hslot
    -- A pending reconnect means the controller is disconnected.
    have hs := hk.reconnect_timer (by simp [hslot])
    have hvalid := hv.reconnect id request hslot
    refine ⟨hvalid, hs, ?_⟩
    rw [step_current c m ⟨m.ctl.generation, .reconnectDue⟩ rfl hr,
      Act.dispatch_of_isReconnectDue c rfl]
    exact Act.onReconnectDue_connects c hslot hs hvalid
  · intro inputs
    have := reconnects_le_failures c hk inputs
    omega

/-- The policy holds once a viewer asked to watch a stream of a local server. -/
theorem start_reconnect_policy :
    let c := Scenario.World.collaborators true true
    let m := (start default {}).step c (.command (.connect ⟨"live", "[::1]:8080", .peerToPeer⟩))
    Reachable c m ∧ ReconnectPolicy c m :=
  ⟨.step _ (.start _ _), reconnect_policy _ (.step _ (.start _ _))⟩

end Machine

end LiveViewer
