import LiveViewer.Proofs.Controller.Footprint

/-!
# Negotiating with the peer session

The server answers the viewer's offer, and sends its remote candidates, as text frames on the
signaling link, and the loop hands what such a frame asks to the live session's peer session. That
is the only way the loop negotiates: along any inputs, the answers applied and the candidates added
are exactly what the frames ask, turn by turn, of the peer session live at their turn
(`Machine.negotiation_calls`, with the calls listed by `Machine.peerCalls`).

Frames delivered one after another to a session that negotiates with peer session `p` ask their
calls of `p`, in order, for as long as the session lives (`Machine.Listening.run`): a frame that
ends the session still made its call, and the frames after it find no session. A refused answer
ends a connecting session with one setup error, which stops every timer and so schedules no
reconnect; past Connecting it is only logged, and so is a refused candidate.
`Machine.frames_negotiate` gathers these for every state the loop reaches.
-/

namespace LiveViewer

/-- A call that negotiates with a peer session: an answer applied or a remote candidate added. -/
def Call.negotiates : Call → Bool
  | .applyAnswer .. | .addCandidate .. => true
  | _ => false

theorem Call.negotiates_of_routine (x : Call) (h : x.routine = true) : x.negotiates = false := by
  cases x <;> first | rfl | simp at h

theorem SignalMessage.peerCall_negotiates {p : Nat} {msg : SignalMessage} {x : Call}
    (h : msg.peerCall p = some x) : x.negotiates = true := by
  cases msg <;> simp only [SignalMessage.peerCall, Option.some.injEq, reduceCtorEq] at h <;>
    (subst h; rfl)

/-- What an event asks of a peer session is a negotiation. -/
theorem EventKind.peerCall_negotiates {p : Nat} {kind : EventKind} {x : Call}
    (h : kind.peerCall p = some x) : x.negotiates = true := by
  cases kind with
  | link e =>
    cases e with
    | text raw =>
      cases hf : Inbound.ofFrame raw with
      | message msg =>
        exact SignalMessage.peerCall_negotiates
          (by simpa [EventKind.peerCall, LinkEvent.peerCall, Inbound.peerCall, hf] using h)
      | unrecognized => simp [EventKind.peerCall, LinkEvent.peerCall, Inbound.peerCall, hf] at h
    | _ => simp [EventKind.peerCall, LinkEvent.peerCall] at h
  | _ => simp [EventKind.peerCall] at h

/-- What a turn asks of the live session's peer session is a negotiation. -/
@[simp] theorem Controller.filter_peerCall (k : Controller) (input : Input) :
    (k.peerCall input).toList.filter Call.negotiates = (k.peerCall input).toList := by
  cases h : k.peerCall input with
  | none => rfl
  | some x =>
    have hx : x.negotiates = true := by
      cases input with
      | deliver e =>
        simp only [Controller.peerCall] at h
        split at h
        · obtain ⟨p, -, hp⟩ := Option.bind_eq_some_iff.1 h
          exact EventKind.peerCall_negotiates hp
        · cases h
      | _ => cases h
    simp [hx]

/-- The input that delivers the text frame `raw` on the signaling link of generation `g`. -/
def Input.frame (g : Nat) (raw : String) : Input := .deliver ⟨g, .link (.text raw)⟩

namespace Act

variable {W : Type} (c : Collaborators W)

/-- A signal message leaves the live session as it was, or ends it. -/
theorem dispatchSignal_session (msg : SignalMessage) (m : Machine W) :
    ((dispatchSignal c msg).run m).2.ctl.session = m.ctl.session ∨
      ((dispatchSignal c msg).run m).2.ctl.session = none := by
  unfold dispatchSignal
  cases msg with
  | answer sdp =>
    simp only [StateT.run_bind, current_run, id_bind, pure_fst, pure_snd]
    split
    · simp only [StateT.run_bind, ask_run, id_bind, pure_fst, pure_snd]
      split
      · exact .inl rfl
      · simp only [StateT.run_bind, current_run, id_bind, pure_fst, pure_snd]
        split
        · exact .inr (by simp [failSetup_ctl])
        · exact .inl rfl
    · exact .inl rfl
  | iceCandidate candidate sdpMid sdpMLineIndex =>
    simp only [StateT.run_bind, current_run, id_bind, pure_fst, pure_snd]
    split
    · simp only [StateT.run_bind, ask_run, id_bind, pure_fst, pure_snd]
      split <;> exact .inl rfl
    · exact .inl rfl
  | error message => exact .inl rfl
  | offer => exact .inl rfl

theorem onLinkEvent_text_session (raw : String) (m : Machine W) :
    ((onLinkEvent c (.text raw)).run m).2.ctl.session = m.ctl.session ∨
      ((onLinkEvent c (.text raw)).run m).2.ctl.session = none := by
  unfold onLinkEvent
  dsimp only
  split
  · exact dispatchSignal_session c _ m
  · exact .inl rfl

/-- A refused answer ends a connecting session with one setup error, which stops every timer and
so leaves no reconnect pending; past Connecting it only adds the error to the log. -/
theorem dispatchSignal_answer_refused {m : Machine W} {p : Nat} {sdp : String}
    {e : TransportError} (hp : m.ctl.session.bind (·.peer) = some p)
    (ha : (c.applyAnswer p sdp m.world).1 = .error e) :
    ((dispatchSignal c (.answer sdp)).run m).2.ctl =
      let k := m.ctl.logged .error
        (ViewerError.setup ("failed to apply answer: " ++ e.message)).message
      if m.ctl.status = .connecting then k.ended else k := by
  simp only [dispatchSignal, StateT.run_bind, current_run, id_bind, pure_fst, pure_snd, hp,
    ask_run, ha]
  by_cases hs : m.ctl.status = .connecting
  · simp [hs, failSetup_ctl]
  · simp [hs]

/-- A refused remote candidate only adds a warning to the log. -/
theorem dispatchSignal_candidate_refused {m : Machine W} {p : Nat} {candidate : String}
    {sdpMid : Option String} {sdpMLineIndex : Option UInt16} {e : TransportError}
    (hp : m.ctl.session.bind (·.peer) = some p)
    (ha : (c.addCandidate p (RemoteCandidate.ofSignal candidate sdpMid sdpMLineIndex) m.world).1 =
      .error e) :
    ((dispatchSignal c (.iceCandidate candidate sdpMid sdpMLineIndex)).run m).2.ctl =
      m.ctl.logged .warn ("Failed to add remote ICE candidate: " ++ e.message) := by
  simp only [dispatchSignal, StateT.run_bind, current_run, id_bind, pure_fst, pure_snd, hp,
    ask_run, ha]
  rfl

end Act

namespace Machine

variable {W : Type} (c : Collaborators W)

/-- A frame of the current generation, delivered to a running loop, goes to the link handler. -/
theorem step_frame {m : Machine W} (hr : m.ctl.running = true) (raw : String) :
    m.step c (Input.frame m.ctl.generation raw) = ((Act.onLinkEvent c (.text raw)).run m).2 := by
  simp only [Input.frame, step, hr, if_true]
  rw [Act.handleEvent_current _ rfl]
  rfl

/-- The calls that the frames among `inputs`, taken from `m` on, ask of the peer session live at
their turn. -/
def peerCalls (m : Machine W) : List Input → List Call
  | [] => []
  | input :: inputs => (m.ctl.peerCall input).toList ++ peerCalls (m.step c input) inputs

/-- Of what one turn writes, the negotiations are what its frame asks. -/
theorem step_negotiations (m : Machine (W × List Call)) (input : Input) :
    ∃ calls, (m.step c.journaled input).world.2 = m.world.2 ++ calls ∧
      calls.filter Call.negotiates = (m.ctl.peerCall input).toList := by
  cases hr : m.ctl.running
  · rw [step_stopped c.journaled hr]
    exact ⟨[], by simp, by cases input <;> simp [Controller.peerCall, hr]⟩
  cases hst : input.stops
  · cases ht : input.track m.ctl.generation with
    | none =>
      obtain ⟨calls, hw, hc⟩ := (step_writes c Call.negotiates_of_routine (fun _ _ _ => rfl)
        (fun _ => ⟨rfl, rfl⟩) (fun _ _ => rfl) m hst ht).calls
      exact ⟨calls, hw, by rw [hc, Controller.filter_peerCall]⟩
    | some stream =>
      -- A track asks nothing of the peer session, and binds the surface at most.
      rw [Input.track_eq_some.1 ht, step_track c.journaled hr]
      have hnone : m.ctl.peerCall (.deliver ⟨m.ctl.generation, .peer (.track stream)⟩) = none := by
        simp [Controller.peerCall, EventKind.peerCall]
      rw [hnone]
      cases hs : m.ctl.session with
      | none => exact ⟨[], by rw [onPeerEvent_track_none c.journaled hs]; simp, rfl⟩
      | some s =>
        obtain ⟨⟨calls, hw, hroutine⟩, -⟩ := Act.onPeerEvent_track c stream hs
        refine ⟨Collaborators.trackCalls s.boundStream stream ++ calls,
          by rw [hw, List.append_assoc], ?_⟩
        rw [List.filter_append, Call.filter_eq_nil_of_routine Call.negotiates_of_routine hroutine]
        unfold Collaborators.trackCalls
        split
        · rfl
        · split <;> rfl
  · -- A stop releases and logs, and negotiates nothing.
    rw [step_ending c.journaled hr (Input.stops_iff.1 hst)]
    obtain ⟨⟨calls, hw, hc⟩, -⟩ := Act.stop_journal c Call.negotiates_of_routine m
    refine ⟨calls, hw, ?_⟩
    rcases Input.stops_iff.1 hst with rfl | rfl <;> simpa [Controller.peerCall] using hc

/-- Along any run, the answers applied and the candidates added are exactly what its frames ask of
the peer session live at their turn, in order. -/
theorem negotiation_calls (m : Machine (W × List Call)) (inputs : List Input) :
    ∃ calls, (m.run c.journaled inputs).world.2 = m.world.2 ++ calls ∧
      calls.filter Call.negotiates = m.peerCalls c.journaled inputs :=
  run_filter c (peerCalls c.journaled) (fun _ => rfl) (fun m input _ => by
    obtain ⟨calls, hw, hc⟩ := step_negotiations c m input
    exact ⟨calls, hw, by rw [hc]; rfl⟩) m inputs

/-- The loop runs in generation `g`, and its live session, if there is one, negotiates with peer
session `p`: the state in which frames of generation `g` reach `p`. -/
structure Listening (p g : Nat) (m : Machine W) : Prop where
  running : m.ctl.running = true
  generation : m.ctl.generation = g
  peer : m.ctl.session.bind (·.peer) = some p ∨ m.ctl.session = none

namespace Listening

variable {p g : Nat} {m : Machine (W × List Call)}

/-- A frame asks its call of `p` while the session lives, and nothing once it is gone. -/
theorem peerCall_frame (h : Listening p g m) (raw : String) :
    m.ctl.peerCall (Input.frame g raw) =
      (m.ctl.session.bind (·.peer)).bind fun q => (Inbound.ofFrame raw).peerCall q := by
  simp [Controller.peerCall, Input.frame, h.running, h.generation, EventKind.peerCall,
    LinkEvent.peerCall]

/-- A frame keeps the loop listening: it keeps the generation and the loop, and leaves the session
as it was or ends it. -/
theorem step (h : Listening p g m) (raw : String) :
    Listening p g (m.step c.journaled (Input.frame g raw)) := by
  have hg := step_generation c.journaled m (Input.frame g raw)
  have hw : Writes (fun _ => false) m (m.step c.journaled (Input.frame g raw)) _ :=
    step_writes c (fun _ _ => rfl) (fun _ _ _ => rfl) (fun _ => ⟨rfl, rfl⟩) (fun _ _ => rfl) m rfl
      (by simp [Input.frame, Input.track])
  rw [← h.generation, step_frame c.journaled h.running] at hg hw ⊢
  refine ⟨hw.running.trans h.running, ?_, ?_⟩
  · rw [hg]
    simp [beginsGeneration, Input.frame, EventKind.isReconnectDue]
  · rcases Act.onLinkEvent_text_session c.journaled raw m with hs | hs <;> rw [hs]
    · exact h.peer
    · exact .inr rfl

/-- Once the session is gone, frames ask nothing and find no session. -/
theorem run_none (h : Listening p g m) (hs : m.ctl.session = none) (raws : List String) :
    m.peerCalls c.journaled (raws.map (Input.frame g)) = [] ∧
      (m.run c.journaled (raws.map (Input.frame g))).ctl.session = none := by
  induction raws generalizing m with
  | nil => exact ⟨rfl, hs⟩
  | cons raw raws ih =>
    have h' := h.step c raw
    have hs' : (m.step c.journaled (Input.frame g raw)).ctl.session = none := by
      rcases h'.peer with hp | hp
      · -- A frame does not bring a session back.
        have := h.generation
        rw [← this, step_frame c.journaled h.running] at hp ⊢
        rcases Act.onLinkEvent_text_session c.journaled raw m with hk | hk <;> rw [hk]
        · exact hs
      · exact hp
    obtain ⟨hcalls, hend⟩ := ih h' hs'
    refine ⟨?_, hend⟩
    simp only [List.map_cons, peerCalls, hcalls, List.append_nil, peerCall_frame h raw, hs,
      Option.bind_none, Option.toList_none]

/-- Frames delivered one after another to a session that negotiates with `p` ask their calls of
`p`, frame by frame, for as long as the session lives: the first `n` of them, all of them if the
session is still live at the end. -/
theorem run (h : Listening p g m) (hp : m.ctl.session.bind (·.peer) = some p)
    (raws : List String) :
    ∃ n ≤ raws.length,
      m.peerCalls c.journaled (raws.map (Input.frame g)) =
        (raws.take n).filterMap (fun raw => (Inbound.ofFrame raw).peerCall p) ∧
      ((m.run c.journaled (raws.map (Input.frame g))).ctl.session.isSome → n = raws.length) := by
  induction raws generalizing m with
  | nil => exact ⟨0, le_rfl, rfl, fun _ => rfl⟩
  | cons raw raws ih =>
    have hfirst : (m.ctl.peerCall (Input.frame g raw)).toList =
        ((Inbound.ofFrame raw).peerCall p).toList := by
      rw [peerCall_frame h raw, hp, Option.bind_some]
    have h' := h.step c raw
    -- The frame made its call; the rest depends on whether the session lived through it.
    rcases h'.peer with hp' | hs'
    · obtain ⟨n, hn, hcalls, hlive⟩ := ih h' hp'
      refine ⟨n + 1, by simpa using hn, ?_, fun hl => by simpa using hlive hl⟩
      simp only [List.map_cons, peerCalls, hcalls, hfirst, List.take_succ_cons,
        List.filterMap_cons]
      cases (Inbound.ofFrame raw).peerCall p <;> rfl
    · obtain ⟨hcalls, hend⟩ := h'.run_none c hs' raws
      refine ⟨1, by simp, ?_, fun hl => by simp [run_cons, hend] at hl⟩
      simp only [List.map_cons, peerCalls, hcalls, hfirst, List.take_succ_cons, List.take_zero,
        List.filterMap_cons, List.filterMap_nil, List.append_nil]
      cases (Inbound.ofFrame raw).peerCall p <;> rfl

end Listening

/-- What the frames on a live session's signaling link ask of its peer session, from `m` on. -/
structure FramesNegotiate (c : Collaborators W) (m : Machine (W × List Call)) : Prop where
  /-- Along any inputs, the answers applied and the candidates added are the calls the frames ask,
  each of the peer session live at its turn, in order. -/
  calls : ∀ inputs, ∃ calls, (m.run c.journaled inputs).world.2 = m.world.2 ++ calls ∧
    calls.filter Call.negotiates = m.peerCalls c.journaled inputs
  /-- Text frames delivered one after another to a session that negotiates with peer session `p`
  make, frame by frame, the call each asks of `p`: an answer applied for an answer, a remote
  candidate added for a candidate, nothing for any other frame; the frames after the session ended
  make none, and if it is still live, every frame made its call. -/
  frames : ∀ p, m.ctl.session.bind (·.peer) = some p → ∀ raws : List String,
    ∃ calls, ∃ n ≤ raws.length,
      (m.run c.journaled (raws.map (Input.frame m.ctl.generation))).world.2 = m.world.2 ++ calls ∧
      calls.filter Call.negotiates =
        (raws.take n).filterMap (fun raw => (Inbound.ofFrame raw).peerCall p) ∧
      ((m.run c.journaled (raws.map (Input.frame m.ctl.generation))).ctl.session.isSome →
        n = raws.length)
  /-- A refused answer ends a connecting session with one setup error and no reconnect pending,
  and past Connecting only adds the error to the log. -/
  answer_refused : ∀ p raw sdp e, m.ctl.session.bind (·.peer) = some p →
    Inbound.ofFrame raw = .message (.answer sdp) → (c.applyAnswer p sdp m.world.1).1 = .error e →
    (m.step c.journaled (Input.frame m.ctl.generation raw)).ctl =
      let k := m.ctl.logged .error
        (ViewerError.setup ("failed to apply answer: " ++ e.message)).message
      if m.ctl.status = .connecting then k.ended else k
  /-- A refused remote candidate only adds a warning to the log. -/
  candidate_refused : ∀ p raw candidate sdpMid sdpMLineIndex e,
    m.ctl.session.bind (·.peer) = some p →
    Inbound.ofFrame raw = .message (.iceCandidate candidate sdpMid sdpMLineIndex) →
    (c.addCandidate p (RemoteCandidate.ofSignal candidate sdpMid sdpMLineIndex) m.world.1).1 =
      .error e →
    (m.step c.journaled (Input.frame m.ctl.generation raw)).ctl =
      m.ctl.logged .warn ("Failed to add remote ICE candidate: " ++ e.message)

/-- In every state the loop reaches, the frames on the live session's signaling link negotiate
with its peer session, frame by frame, and nothing else does. -/
theorem frames_negotiate {m : Machine (W × List Call)} (h : Reachable c.journaled m) :
    FramesNegotiate c m := by
  -- A session with a peer session is live, so the loop runs and its frames are handled.
  have hlisten : ∀ p, m.ctl.session.bind (·.peer) = some p → Listening p m.ctl.generation m :=
    fun p hp => by
      obtain ⟨s, hs, -⟩ := Option.bind_eq_some_iff.1 hp
      exact ⟨h.running_of_session c hs, rfl, .inl hp⟩
  refine ⟨negotiation_calls c m, fun p hp raws => ?_, fun p raw sdp e hp hf ha => ?_,
    fun p raw candidate sdpMid sdpMLineIndex e hp hf ha => ?_⟩
  · obtain ⟨n, hn, hpeer, hlive⟩ := (hlisten p hp).run c hp raws
    obtain ⟨calls, hw, hc⟩ := negotiation_calls c m (raws.map (Input.frame m.ctl.generation))
    exact ⟨calls, n, hn, hw, hc.trans hpeer, hlive⟩
  · rw [step_frame c.journaled (hlisten p hp).running]
    simp only [Act.onLinkEvent, hf]
    exact Act.dispatchSignal_answer_refused c.journaled hp (by simpa using ha)
  · rw [step_frame c.journaled (hlisten p hp).running]
    simp only [Act.onLinkEvent, hf]
    exact Act.dispatchSignal_candidate_refused c.journaled hp (by simpa using ha)

/-- Frames negotiate once a viewer asked to watch a stream of a local server. -/
theorem start_frames_negotiate :
    let c := Scenario.World.collaborators true true
    let m := (start default ({}, [])).step c.journaled
      (.command (.connect ⟨"live", "[::1]:8080", .peerToPeer⟩))
    Reachable c.journaled m ∧ FramesNegotiate c m :=
  ⟨.step _ (.start _ _), frames_negotiate _ (.step _ (.start _ _))⟩

end Machine

end LiveViewer
