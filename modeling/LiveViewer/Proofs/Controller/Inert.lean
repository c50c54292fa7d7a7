import LiveViewer.Proofs.Controller.Reconnect

/-!
# Inputs that change nothing but the log

Two kinds of input are refused or only noted, and they leave the controller exactly as it was
apart from one line in its log, which the log book keeps and the sink receives.

A connect is checked before it changes anything. A request whose stream key or endpoint is blank
after trimming is refused with one error entry; a request that passes while an attempt is in
progress is refused with no entry at all. The connect command and the toggle from Idle or
Disconnected are that same connect, and the reconnect timer only ever connects to a request that
validates to itself, since validation is idempotent (`Machine.connect_refusal_atomic`).

A signaling link event that the protocol has no use for is logged and ignored: a binary frame, a
link error, and a text frame that is no message, or is an offer or a server error. An answer or a
remote candidate that arrives while the session has no peer session is dropped without even a log
entry (`Act.inert_link_event_logged`).
-/

namespace LiveViewer

namespace ConnectRequest

/-- The field a request with a blank field is refused for: the stream key when it is blank,
otherwise the endpoint. -/
def blankField (r : ConnectRequest) : RequiredField :=
  if (Text.trim r.streamKey).isEmpty then .streamKey else .serverEndpoint

/-- A request with a blank stream key or endpoint fails validation on its blank field. -/
theorem validated_of_blank {r : ConnectRequest}
    (h : (Text.trim r.streamKey).isEmpty ∨ (Text.trim r.serverEndpoint).isEmpty) :
    r.validated = .error r.blankField := by
  by_cases hk : (Text.trim r.streamKey).isEmpty
  · simp [validated, blankField, hk]
  · have he : (Text.trim r.serverEndpoint).isEmpty := by simpa [hk] using h
    simp [validated, blankField, hk, he]

/-- A request with both fields given passes validation. -/
theorem validated_of_given {r : ConnectRequest} (hk : (Text.trim r.streamKey).isEmpty = false)
    (he : (Text.trim r.serverEndpoint).isEmpty = false) : ∃ valid, r.validated = .ok valid := by
  simp [validated, hk, he]

end ConnectRequest

/-- A link event the controller only logs: a binary frame, a link error, and a text frame that
is no signal message, or is an offer or a server error. -/
def LinkEvent.isInert : LinkEvent → Bool
  | .binary _ | .error _ => true
  | .text raw =>
    match Inbound.ofFrame raw with
    | .unrecognized .. | .message (.offer ..) | .message (.error _) => true
    | .message (.answer _) | .message (.iceCandidate ..) => false
  | .closed => false

/-- A message that goes to the peer session: an answer or a remote candidate. -/
def SignalMessage.forPeer : SignalMessage → Bool
  | .answer _ | .iceCandidate .. => true
  | .offer .. | .error _ => false

namespace Act

variable {W : Type} (c : Collaborators W)

/-! ## Connects that are refused -/

/-- A running controller answers a connect command by connecting. -/
theorem handleCommand_connect {m : Machine W} (hr : m.ctl.running = true) (r : ConnectRequest) :
    (handleCommand c (.connect r)).run m = (connect c r).run m := by
  simp [handleCommand, hr]

/-- From Idle or Disconnected a toggle connects to the configured request. -/
theorem handleCommand_toggle_restartable {m : Machine W} (hr : m.ctl.running = true)
    (hs : m.ctl.status.isRestartable = true) :
    (handleCommand c .toggle).run m = (connect c m.ctl.config.connectRequest).run m := by
  simp [handleCommand, hr, hs]

/-! ## Signaling input that is only logged -/

/-- An inert link event is handled by one log entry and nothing else. -/
theorem onLinkEvent_inert {event : LinkEvent} (h : event.isInert = true) :
    ∃ level message, onLinkEvent c event = log c level message := by
  cases event with
  | text raw =>
    -- A text frame is inert by what it decodes to.
    cases hf : Inbound.ofFrame raw with
    | unrecognized raw' reason => exact ⟨_, _, by simp only [onLinkEvent, hf]; rfl⟩
    | message msg =>
      cases msg with
      | offer key sdp => exact ⟨_, _, by simp only [onLinkEvent, hf, dispatchSignal]; rfl⟩
      | error message => exact ⟨_, _, by simp only [onLinkEvent, hf, dispatchSignal]; rfl⟩
      | answer sdp => simp [LinkEvent.isInert, hf] at h
      | iceCandidate candidate sdpMid sdpMLineIndex => simp [LinkEvent.isInert, hf] at h
  | binary length => exact ⟨_, _, rfl⟩
  | error message => exact ⟨_, _, rfl⟩
  | closed => simp [LinkEvent.isInert] at h

/-- A message for the peer session is dropped, without a log entry, while there is none. -/
theorem dispatchSignal_without_peer {m : Machine W} {msg : SignalMessage}
    (hp : msg.forPeer = true) (hn : m.ctl.session.bind (·.peer) = none) :
    (dispatchSignal c msg).run m = pure ((), m) := by
  cases msg with
  | answer sdp => simp [dispatchSignal, hn]
  | iceCandidate candidate sdpMid sdpMLineIndex => simp [dispatchSignal, hn]
  | offer key sdp => simp [SignalMessage.forPeer] at hp
  | error message => simp [SignalMessage.forPeer] at hp

/-- Signaling input that the protocol has no use for changes nothing but the log. An inert link
event of the current generation appends one entry, which the sink receives too, and changes
nothing else: no status, session, timer or figure, no publish and no other call. An answer or a
remote candidate while the session has no peer session changes nothing at all. -/
theorem inert_link_event_logged (m : Machine W) (event : LinkEvent) :
    (event.isInert = true →
      ∃ entry : LogEntry, (handleEvent c ⟨m.ctl.generation, .link event⟩).run m =
        pure ((), ⟨{ m.ctl with logBook := m.ctl.logBook.push entry }, c.record entry m.world⟩)) ∧
    (∀ raw msg, event = .text raw → Inbound.ofFrame raw = .message msg → msg.forPeer = true →
      m.ctl.session.bind (·.peer) = none →
      (handleEvent c ⟨m.ctl.generation, .link event⟩).run m = pure ((), m)) := by
  refine ⟨fun h => ?_, ?_⟩
  · obtain ⟨level, message, he⟩ := onLinkEvent_inert c h
    refine ⟨⟨level, message⟩, ?_⟩
    rw [handleEvent_current c rfl]
    simp only [dispatch, he, log_run]
    rfl
  · rintro raw msg rfl hf hp hn
    rw [handleEvent_current c rfl]
    simp only [dispatch, onLinkEvent, hf]
    exact dispatchSignal_without_peer c hp hn

/-- In the recording world, a binary frame on a fresh controller is only logged. -/
theorem binary_frame_logged :
    let c := Scenario.World.collaborators true true
    let m := Machine.start default {}
    (LinkEvent.binary 3).isInert = true ∧
      ∃ entry : LogEntry, (handleEvent c ⟨m.ctl.generation, .link (.binary 3)⟩).run m =
        pure ((), ⟨{ m.ctl with logBook := m.ctl.logBook.push entry }, c.record entry m.world⟩) :=
  ⟨rfl, (inert_link_event_logged _ _ _).1 rfl⟩

end Act

namespace Machine

open Act

variable {W : Type} (c : Collaborators W)

/-- How a connect to `r` is refused from `m`, and which inputs reach that connect. -/
structure ConnectRefusals (m : Machine W) (r : ConnectRequest) : Prop where
  /-- A blank stream key or endpoint: the connect answers a validation error for that field,
  appends one error entry to the log, which the sink receives, and changes nothing else. -/
  blank : (Text.trim r.streamKey).isEmpty ∨ (Text.trim r.serverEndpoint).isEmpty →
    let entry : LogEntry := ⟨.error, (ViewerError.validation r.blankField).message⟩
    (connect c r).run m = pure (.error (.validation r.blankField),
      ⟨{ m.ctl with logBook := m.ctl.logBook.push entry }, c.record entry m.world⟩)
  /-- Both given while an attempt is in progress: the connect answers that, and nothing changes,
  not even the log. -/
  busy : (Text.trim r.streamKey).isEmpty = false → (Text.trim r.serverEndpoint).isEmpty = false →
    m.ctl.status = .connecting → (connect c r).run m = pure (.error .connectInProgress, m)
  /-- A running controller answers the connect command, and the toggle from Idle or
  Disconnected, with that connect, to the given and to the configured request. -/
  commands : m.ctl.running = true →
    (handleCommand c (.connect r)).run m = (connect c r).run m ∧
    (m.ctl.status.isRestartable = true →
      (handleCommand c .toggle).run m = (connect c m.ctl.config.connectRequest).run m)
  /-- The request a pending reconnect will connect to validates to itself and is accepted: the
  reconnect's connect is never refused. -/
  reconnect : ∀ id request, m.ctl.timers.reconnect = some (id, request) →
    request.validated = .ok request ∧ m.ctl.accepts request = true
  /-- Validation is idempotent. -/
  idempotent : ∀ valid, r.validated = .ok valid → valid.validated = .ok valid

theorem connect_refusal_atomic {m : Machine W} (h : Reachable c m) (r : ConnectRequest) :
    ConnectRefusals c m r where
  blank hb := by
    rw [connect_run_invalid c (ConnectRequest.validated_of_blank hb)]
    rfl
  busy hk he hs := by
    obtain ⟨valid, hv⟩ := ConnectRequest.validated_of_given hk he
    exact connect_run_busy c hv hs
  commands hr := ⟨handleCommand_connect c hr r, handleCommand_toggle_restartable c hr⟩
  reconnect id request hslot := by
    have hv := (reachable_requestsValidated c h).reconnect id request hslot
    -- A pending reconnect means the controller is disconnected, so not connecting.
    have hs := (reachable_consistent c h).reconnect_timer (by simp [hslot])
    exact ⟨hv, by simp [Controller.accepts, hv, hs, Except.isOk, Except.toBool]⟩
  idempotent _ hv := ConnectRequest.validated_validated hv

/-- In the recording world, a fresh controller refuses a connect with a blank stream key. -/
theorem start_connect_refusals :
    let c := Scenario.World.collaborators true true
    Reachable c (start default {}) ∧
      ConnectRefusals c (start default {}) ⟨" ", "localhost:8080", .peerToPeer⟩ :=
  ⟨.start _ _, connect_refusal_atomic _ (.start _ _) _⟩

end Machine

end LiveViewer
