import LiveViewer.Proofs.Controller.LedgerSteps

/-!
# Sessions along a faithful run

Every state of a faithful run (`Machine.Faithful`) is `Accounted`: its controller is consistent,
the ledger of its journal holds, every producer op is of the current generation or an older
one, and no signaling link was brought twice. Each turn keeps this (`Accounted.step_command`,
`Accounted.step_hangUp`, `Accounted.step_deliver`), the handler lemmas of `LedgerSteps` doing the
work; what a turn of delivery needs besides is read off the producers: a signaling open of the
current generation comes from the live session's own opener, which reports once and only for a
peer-to-peer session, and a peer session's report from the live session's own peer pump.

From the ledger follow the two contracts of the sessions' lives: each session is released once,
before the next begins and before the loop ends, and closes exactly what it opened, while a
second disconnect in a row only moves to the next generation (`sessions_released_once`); and
what goes out on a signaling link is the offer of the session that opened it and then local
candidates of its peer session, on a link no other session used (`signaling_frames_ordered`).
-/

namespace LiveViewer

/-- The opener a call starts, if it starts one, is an opener op of the same generation. -/
theorem Call.startsOpener_eq (g : Nat) (x : Call) :
    x.startsOpener g = (x.op == some (.opener g)) := by
  cases x
  case spawn g' p task => cases p <;> simp [Call.startsOpener]
  case showOverlay overlay =>
    by_cases h : overlay = some connectingOverlay <;> simp [h, Call.startsOpener]
  case createPeer servers answer => cases answer <;> simp [Call.startsOpener]
  case createOffer peer answer => cases answer <;> simp [Call.startsOpener]
  case startEngine manifest answer => cases answer <;> simp [Call.startsOpener]
  all_goals simp [Call.startsOpener]

/-- The openers of generation `g` among some calls are its opener ops. -/
theorem Call.openers_count (g : Nat) (calls : List Call) :
    (calls.filter (Call.startsOpener g)).length = (Call.ops calls).count (.opener g) := by
  induction calls with
  | nil => rfl
  | cons x xs ih =>
    rw [List.filter_cons, Call.ops_cons, List.count_append, ← ih, Call.startsOpener_eq]
    cases hx : x.op with
    | none => simp
    | some op =>
      by_cases hop : op = .opener g
      · simp [hop]
        omega
      · simp [hop]

/-- A call whose op starts a producer in generation `g` starts it in `g`. -/
theorem Call.startedIn_of_op {x : Call} {op : Op} {g : Nat} (hx : x.op = some op)
    (hg : op.generation = some g) : x.startedIn = some g := by
  -- Only the ops of openers and peer pumps have a generation.
  have hop : op = .opener g ∨ op = .peerPump g := by
    cases op <;> simp_all
  cases x
  case spawn g' p task => cases p <;> rcases hop with rfl | rfl <;> simp_all
  case showOverlay overlay =>
    by_cases h : overlay = some connectingOverlay <;> rcases hop with rfl | rfl <;> simp_all
  case createPeer servers answer => cases answer <;> rcases hop with rfl | rfl <;> simp_all
  case createOffer peer answer => cases answer <;> rcases hop with rfl | rfl <;> simp_all
  case startEngine manifest answer => cases answer <;> rcases hop with rfl | rfl <;> simp_all
  all_goals rcases hop with rfl | rfl <;> simp_all

section Current

variable {W : Type} {c : Collaborators W} {delivered : List SessionEvent}

/-- An op of the live session's generation is an op of its life: the older ones belong to older
generations. -/
theorem Ledger.count_current {ops : List Op} {s : ActiveSession}
    (h : Ledger c delivered ops (some s)) :
    ∃ body, Live c delivered s body ∧
      ∀ op, op.generation = some s.generation → ops.count op = body.count op := by
  obtain ⟨lives, rest, hops, -, body, hrest, hlive, hg⟩ := h.settled
  refine ⟨body, hlive, fun op hop => ?_⟩
  have hprefix : ((lives.map fun life => Op.begin :: life.2).flatten).count op = 0 := by
    rw [List.count_eq_zero]
    intro hmem
    have hlt := hg op hmem s.generation hop
    omega
  have hbegin : (Op.begin == op) = false := by
    cases op <;> simp_all
  rw [hops, hrest, List.count_append, hprefix, List.count_cons, hbegin]
  simp

end Current

namespace Machine

variable {W : Type} (c : Collaborators W)

/-- What every state of a faithful run satisfies, `delivered` being the events delivered. -/
structure Accounted (delivered : List SessionEvent) (m : Machine (W × List Call)) : Prop where
  consistent : m.ctl.Consistent
  ledger : m.ledger c delivered
  dated : m.Dated
  links : (reportedLinks delivered).Nodup

variable {c}

/-- Every producer started during a turn is of the generation the turn ends in, which is the
one it began in or the next. -/
theorem step_dated {m : Machine (W × List Call)} (hd : m.Dated) (input : Input) :
    (m.step c.journaled input).Dated := by
  obtain ⟨calls, hw, hc⟩ := step_tagged c m input
  have hle : m.ctl.generation ≤ (m.step c.journaled input).ctl.generation := by
    rw [step_generation]
    omega
  intro op hop g hg
  rw [hw, Call.ops_append, List.mem_append] at hop
  rcases hop with hop | hop
  · exact Nat.le_trans (hd op hop g hg) hle
  · obtain ⟨x, hx, hxop⟩ := List.mem_filterMap.1 hop
    exact Nat.le_of_eq (hc g (List.mem_filterMap.2 ⟨x, hx, Call.startedIn_of_op hxop hg⟩))

section Delivery

variable {delivered : List SessionEvent} {m : Machine (W × List Call)} {e : SessionEvent}
  (h : m.Accounted c delivered) (he : Deliverable m.world.2 delivered e)
  (hg : e.generation = m.ctl.generation)
include h he hg

/-- A signaling open of the current generation was reported by the live session's opener: the
session is peer to peer, and since its opener reports once, it has no channel yet. -/
theorem Accounted.opened (ho : e.kind.isOpened = true) (s : ActiveSession)
    (hs : m.ctl.session = some s) :
    s.signaling = none ∧ s.request.transport = .peerToPeer := by
  obtain ⟨p, task, hcall, hrep⟩ := he.started
  obtain ⟨g, kind⟩ := e
  dsimp only at hg hcall hrep ho
  subst hg
  obtain ⟨url, rfl⟩ : ∃ url, p = .opener url := by
    cases kind <;> simp [EventKind.isOpened] at ho
    cases p <;> simp_all [Producer.Reports]
  have hledger : Ledger c delivered (Call.ops m.world.2) (some s) := hs ▸ h.ledger
  have hgen : s.generation = m.ctl.generation := (h.consistent.session_current s hs).1
  obtain ⟨body, hlive, hcount⟩ := hledger.count_current
  have hbody : (Call.ops m.world.2).count (.opener m.ctl.generation) =
      body.count (.opener m.ctl.generation) := hcount _ (by simp [hgen])
  -- The opener's op is in the live session's life, which has at most one opener.
  have hin : 0 < body.count (.opener m.ctl.generation) := by
    rw [← hbody, List.count_pos_iff]
    exact List.mem_filterMap.2 ⟨_, hcall, rfl⟩
  have hopeners : body.count (.opener m.ctl.generation) ≤ 1 := calc
    body.count (.opener m.ctl.generation) ≤ body.countP Op.isOpener :=
      List.countP_mono_left fun op _ hop => by simp_all
    _ = (body.filter Op.isOpener).length := List.countP_eq_length_filter
    _ ≤ 1 := hlive.openers
  have hnone : openedIn delivered m.ctl.generation = 0 := by
    have honce : openedIn delivered m.ctl.generation <
        (m.world.2.filter (Call.startsOpener m.ctl.generation)).length := he.once ho
    rw [Call.openers_count, hbody] at honce
    omega
  refine ⟨?_, hlive.opener_peerToPeer ?_⟩
  · cases hsig : s.signaling with
    | none => rfl
    | some pair =>
      have hopened := hlive.opened (by simp [hsig])
      rw [hgen] at hopened
      omega
  · intro hnil
    have hmem : Op.opener m.ctl.generation ∈ body := List.count_pos_iff.1 hin
    have : Op.opener m.ctl.generation ∈ body.filter Op.isOpener := List.mem_filter.2 ⟨hmem, rfl⟩
    simp [hnil] at this

/-- A peer session's report of the current generation came from the live session's peer pump:
the session has a peer session. -/
theorem Accounted.peer (event : PeerEvent) (hk : e.kind = .peer event) (s : ActiveSession)
    (hs : m.ctl.session = some s) : s.peer.isSome := by
  obtain ⟨p, task, hcall, hrep⟩ := he.started
  obtain ⟨g, kind⟩ := e
  dsimp only at hg hcall hrep hk
  subst hg hk
  obtain ⟨peer, rfl⟩ : ∃ peer, p = .peerPump peer := by
    cases p <;> simp_all [Producer.Reports]
  have hledger : Ledger c delivered (Call.ops m.world.2) (some s) := hs ▸ h.ledger
  have hgen : s.generation = m.ctl.generation := (h.consistent.session_current s hs).1
  obtain ⟨body, hlive, hcount⟩ := hledger.count_current
  have hin : 0 < body.count (.peerPump m.ctl.generation) := by
    rw [← hcount _ (by simp [hgen]), List.count_pos_iff]
    exact List.mem_filterMap.2 ⟨_, hcall, rfl⟩
  refine hlive.peerPump fun hnil => ?_
  have : Op.peerPump m.ctl.generation ∈ body.filter Op.isPeerPump :=
    List.mem_filter.2 ⟨List.count_pos_iff.1 hin, rfl⟩
  simp [hnil] at this

end Delivery

namespace Accounted

variable {delivered : List SessionEvent} {m : Machine (W × List Call)}

theorem start (config : ViewerConfig) (world : W) :
    (start config (world, [])).Accounted c [] where
  consistent := Controller.start_consistent config
  ledger := ⟨Settled.nil, by simp [reportedLinks, Machine.start]⟩
  dated := by simp [Dated, Machine.start]
  links := List.nodup_nil

theorem step_command (h : m.Accounted c delivered) (cmd : Command) :
    (m.step c.journaled (.command cmd)).Accounted c delivered where
  consistent := step_consistent c.journaled h.consistent _
  ledger := Act.handleCommand_ledger c cmd h.ledger h.dated
  dated := step_dated h.dated _
  links := h.links

theorem step_hangUp (h : m.Accounted c delivered) :
    (m.step c.journaled .hangUp).Accounted c delivered where
  consistent := step_consistent c.journaled h.consistent _
  ledger := by
    dsimp only [step]
    split
    · exact Act.stop_ledger c h.ledger.releasable
    · exact h.ledger
  dated := step_dated h.dated _
  links := h.links

/-- A link is brought once: the links of the delivered reports stay distinct. -/
theorem links_append (h : (reportedLinks delivered).Nodup) {e : SessionEvent}
    (he : ∀ link, e.kind.openedLink = some link → ∀ e' ∈ delivered, e'.kind.openedLink ≠ some link) :
    (reportedLinks (delivered ++ [e])).Nodup := by
  rw [reportedLinks_append]
  refine List.nodup_append.2 ⟨h, ?_, ?_⟩
  · cases hl : e.kind.openedLink <;> simp [reportedLinks, hl]
  · intro link hmem link' hmem' hne
    subst hne
    obtain ⟨e', he', hl'⟩ := List.mem_filterMap.1 hmem
    have hl : e.kind.openedLink = some link := by
      simpa [reportedLinks] using hmem'
    exact he link hl e' he' hl'

theorem step_deliver (h : m.Accounted c delivered) {e : SessionEvent}
    (he : Deliverable m.world.2 delivered e) :
    (m.step c.journaled (.deliver e)).Accounted c (delivered ++ [e]) where
  consistent := step_consistent c.journaled h.consistent _
  ledger := by
    dsimp only [step]
    split
    · exact Act.handleEvent_ledger c e h.ledger h.consistent h.dated
        (fun hg ho => h.opened he hg ho) (fun hg event hk => h.peer he hg event hk)
    · exact Ledger.append_delivered _ h.ledger
  dated := step_dated h.dated _
  links := links_append h.links he.fresh

end Accounted

/-- Every state of a faithful run is accounted for. -/
theorem Faithful.accounted {m : Machine (W × List Call)} {delivered : List SessionEvent}
    (h : Faithful c m delivered) : m.Accounted c delivered := by
  induction h with
  | start config world => exact .start config world
  | command cmd _ ih => exact ih.step_command cmd
  | hangUp _ ih => exact ih.step_hangUp
  | deliver e _ he ih => exact ih.step_deliver he

end Machine

/-! ## Ending the loop, releasing, disconnecting twice -/

namespace Controller

/-- After a disconnect no timer runs. -/
theorem disconnected_timers (k : Controller) : k.disconnected.timers = {} := by
  unfold disconnected
  split
  · split <;> simp
  · simp_all [released]

/-- After a disconnect the status is Idle or Disconnected. -/
theorem disconnected_status (k : Controller) :
    k.disconnected.status = .idle ∨ k.disconnected.status = .disconnected := by
  unfold disconnected
  split
  · split <;> simp_all
  · simp

/-- A disconnect that finds no session and no timer, the status already Idle or Disconnected,
only moves to the next generation. -/
theorem disconnected_of_quiet {k : Controller} (hs : k.session = none) (ht : k.timers = {})
    (hst : k.status = .idle ∨ k.status = .disconnected) :
    k.disconnected = { k with generation := k.generation + 1 }.publishNow := by
  obtain ⟨config, logBook, status, transport, generation, session, sampler, stats, overlay,
    timers, published, running⟩ := k
  dsimp only at hs ht hst
  subst hs ht
  rcases hst with rfl | rfl <;> simp [disconnected]

end Controller

namespace Machine

variable {W : Type} (c : Collaborators W)

/-- A stopped loop takes no more turns. -/
theorem step_stopped {m : Machine W} (h : m.ctl.running = false) (input : Input) :
    m.step c input = m := by
  cases input with
  | command cmd => simp [step, Act.handleCommand, h]
  | deliver e => simp [step, h]
  | hangUp => simp [step, h]

/-- A hang-up and a shutdown of a running loop both stop it. -/
theorem step_ending {m : Machine W} (h : m.ctl.running = true) {input : Input}
    (hi : input = .hangUp ∨ input = .command .shutdown) :
    m.step c input = ((Act.stop c).run m).2 := by
  rcases hi with rfl | rfl
  · simp [step, h]
  · simp [step, Act.handleCommand, h]

/-- The second of two disconnects in a row makes no call and only moves to the next generation:
the first left neither a session nor a timer. -/
theorem disconnect_disconnect (m : Machine W) :
    let m₁ := ((Act.disconnect c).run m).2
    ((Act.disconnect c).run m₁).2 =
      { m₁ with ctl := { m₁.ctl with generation := m₁.ctl.generation + 1 }.publishNow } := by
  intro m₁
  have hk : m₁.ctl = m.ctl.disconnected := Act.disconnect_ctl c m
  have hs : m₁.ctl.session = none := by rw [hk]; exact Controller.disconnected_session _
  have ht : m₁.ctl.timers = {} := by rw [hk]; exact Controller.disconnected_timers _
  have hst : m₁.ctl.status = .idle ∨ m₁.ctl.status = .disconnected := by
    rw [hk]; exact Controller.disconnected_status _
  have hworld : ((Act.disconnect c).run m₁).2.world = m₁.world := by
    rw [Act.disconnect_world, hs]
    simp [Collaborators.teardown, Collaborators.stopTimers, hs, ht]
  have hctl : ((Act.disconnect c).run m₁).2.ctl =
      { m₁.ctl with generation := m₁.ctl.generation + 1 }.publishNow := by
    rw [Act.disconnect_ctl, Controller.disconnected_of_quiet hs ht hst]
  calc ((Act.disconnect c).run m₁).2
      = ⟨((Act.disconnect c).run m₁).2.ctl, ((Act.disconnect c).run m₁).2.world⟩ := rfl
    _ = _ := by rw [hctl, hworld]

end Machine

/-- Releasing aborts the session's producers before anything else. -/
theorem Collaborators.releaseCalls_tasks (s : ActiveSession) (stats : Option Nat) :
    releaseCalls s stats = s.tasks.map .abort ++ releaseCalls { s with tasks := [] } stats := by
  simp [releaseCalls]

namespace Machine

variable {W : Type} (c : Collaborators W)

/-- A release of the live session aborts its producers first, and what it calls then are the
calls of its release ops. -/
theorem releaseSession_journal {m : Machine (W × List Call)} {s : ActiveSession}
    (hs : m.ctl.session = some s) :
    ∃ calls, ((Act.releaseSession c.journaled).run m).2.world.2 =
      m.world.2 ++ (s.tasks.map .abort ++ calls) ∧ Call.ops calls = s.releaseOps := by
  refine ⟨Collaborators.releaseCalls { s with tasks := [] } m.ctl.timers.stats, ?_, ?_⟩
  · rw [Act.releaseSession_world]
    simp only [hs]
    rw [Collaborators.journaled_release, Collaborators.releaseCalls_tasks]
  · rw [Collaborators.releaseCalls_ops]
    rfl

/-- A local candidate of the current generation, handled while the live session's channel holds
its sending end, goes out on the link, and nothing else happens in the world. -/
theorem step_localCandidate_held {m : Machine W} (hr : m.ctl.running = true)
    {s : ActiveSession} (hs : m.ctl.session = some s) {link : Nat} {channel : SignalingChannel}
    (hsig : s.signaling = some (link, channel)) (hh : channel.holding = true)
    (candidate : String) (sdpMid : Option String) (sdpMLineIndex : Option UInt16) :
    (m.step c (.deliver ⟨m.ctl.generation, .peer (.localCandidate candidate sdpMid sdpMLineIndex)⟩)).world =
      c.sendFrame link (SignalMessage.iceCandidate candidate sdpMid sdpMLineIndex).encode m.world := by
  have hb : m.ctl.session.bind (·.signaling) = some (link, channel) := by simp [hs, hsig]
  simp only [step, hr, if_true]
  rw [Act.handleEvent_current c rfl]
  simp only [Act.dispatch, Act.onPeerEvent]
  rw [Act.sendSignal_run c _ link hb hh]
  rfl

/-- Without a channel that holds its sending end, a local candidate changes nothing. -/
theorem step_localCandidate_unheld {m : Machine W}
    (h : ∀ link channel, m.ctl.session.bind (·.signaling) = some (link, channel) →
      channel.holding = false)
    {e : SessionEvent} {candidate : String} {sdpMid : Option String}
    {sdpMLineIndex : Option UInt16} (he : e.kind = .peer (.localCandidate candidate sdpMid sdpMLineIndex)) :
    m.step c (.deliver e) = m := by
  simp only [step]
  split
  · by_cases hg : e.generation = m.ctl.generation
    · rw [Act.handleEvent_current c hg, he]
      simp only [Act.dispatch, Act.onPeerEvent]
      rw [Act.sendSignal_run_of_closed c _ h]
      rfl
    · rw [Act.handleEvent_stale c hg, he]
      rfl
  · rfl

/-! ## The two contracts -/

/-- What the journal of `m` says of the sessions' lives, `delivered` being the events delivered. -/
structure SessionsReleased (delivered : List SessionEvent) (m : Machine (W × List Call)) :
    Prop where
  /-- Every session but the live one was released once, before the next began, closing each
  thing it opened once and unbinding the surface last; the live one holds what it opened. -/
  lives : Settled (Completed c delivered) (Trail c delivered) (Call.ops m.world.2) m.ctl.session
  /-- A hang-up or a shutdown stops the loop with every session released. -/
  ended : m.ctl.running = true → ∀ input, input = .hangUp ∨ input = .command .shutdown →
    (m.step c.journaled input).ctl.running = false ∧ (m.step c.journaled input).ctl.session = none ∧
      Settled (Completed c delivered) (Trail c delivered)
        (Call.ops (m.step c.journaled input).world.2) none
  /-- A stopped loop makes no more calls. -/
  stopped : m.ctl.running = false → ∀ input, m.step c.journaled input = m
  /-- A release aborts the session's producers before anything else, and its other calls are
  those of its release ops. -/
  release : ∀ s, m.ctl.session = some s → ∃ calls,
    ((Act.releaseSession c.journaled).run m).2.world.2 =
      m.world.2 ++ (s.tasks.map .abort ++ calls) ∧ Call.ops calls = s.releaseOps
  /-- A second disconnect in a row makes no call and only moves to the next generation. -/
  disconnect_twice :
    let m₁ := ((Act.disconnect c.journaled).run m).2
    ((Act.disconnect c.journaled).run m₁).2 =
      { m₁ with ctl := { m₁.ctl with generation := m₁.ctl.generation + 1 }.publishNow }

/-- What goes out on the signaling links, along the journal of `m`. -/
structure SignalingOrdered (delivered : List SessionEvent) (m : Machine (W × List Call)) :
    Prop where
  /-- A released session's link saw nothing, or its channel opened, the frames `Sends` allows,
  and its channel closed; the live session's link its channel opened, those frames, and the
  closing if the link closed. The offer's stream key is that of the validated request. -/
  lives : Settled
    (fun s body => s.request.validated = .ok s.request ∧ (body.filter Op.isLink = [] ∨
      ∃ link frames, s.signaling.map Prod.fst = some link ∧
        body.filter Op.isLink = .channel link :: frames.map (.frame link) ++ [.closeChannel link] ∧
        s.Sends c delivered body frames))
    (fun s body => s.request.validated = .ok s.request ∧
      ∃ frames, body.filter Op.isLink = s.linkOps frames ∧ s.Sends c delivered body frames)
    (Call.ops m.world.2) m.ctl.session
  /-- No two channels were opened on one link. -/
  links : ((Call.ops m.world.2).filterMap Op.channelLink).Nodup
  /-- A local candidate of the current generation, handled while the live session's channel
  holds its sending end, goes out on its link. -/
  sent : m.ctl.running = true → ∀ s link channel, m.ctl.session = some s →
    s.signaling = some (link, channel) → channel.holding = true →
    ∀ candidate sdpMid sdpMLineIndex,
      (m.step c.journaled
        (.deliver ⟨m.ctl.generation, .peer (.localCandidate candidate sdpMid sdpMLineIndex)⟩)).world.2 =
        m.world.2 ++ [.sendFrame link (SignalMessage.iceCandidate candidate sdpMid sdpMLineIndex).encode]
  /-- Without a channel that holds its sending end, a local candidate changes nothing. -/
  unsent : (∀ link channel, m.ctl.session.bind (·.signaling) = some (link, channel) →
      channel.holding = false) →
    ∀ e candidate sdpMid sdpMLineIndex,
      e.kind = .peer (.localCandidate candidate sdpMid sdpMLineIndex) → m.step c.journaled (.deliver e) = m

variable {c}

/-- Along a faithful run every session is released once, before the next one begins and before
the loop ends, closing exactly what it opened; a second disconnect does nothing but move on. -/
theorem sessions_released_once {m : Machine (W × List Call)} {delivered : List SessionEvent}
    (h : Faithful c m delivered) : m.SessionsReleased c delivered := by
  have hl : Ledger c delivered (Call.ops m.world.2) m.ctl.session := h.accounted.ledger
  refine ⟨hl.releasable.settled, fun hr input hi => ?_, step_stopped c.journaled,
    fun s hs => releaseSession_journal c hs, disconnect_disconnect c.journaled m⟩
  -- The state the loop ends in is a state of the run too; its ledger has no live session.
  have h' : Faithful c (m.step c.journaled input) delivered := by
    rcases hi with rfl | rfl
    · exact .hangUp h
    · exact .command _ h
  have hctl : (m.step c.journaled input).ctl = { m.ctl.disconnected with running := false } := by
    rw [step_ending c.journaled hr hi, Act.stop_ctl]
  have hs : (m.step c.journaled input).ctl.session = none := by simp [hctl]
  have hl' : Ledger c delivered (Call.ops (m.step c.journaled input).world.2) none :=
    hs ▸ h'.accounted.ledger
  exact ⟨by simp [hctl], hs, hl'.settled.of_none⟩

theorem connect_sessions_released :
    let c := Scenario.World.collaborators true true
    let m := (start default (({} : Scenario.World), [])).step c.journaled
      (.command (.connect ⟨"live", "localhost:8080", .peerToPeer⟩))
    Faithful c m [] ∧ m.SessionsReleased c [] :=
  have h : Faithful (Scenario.World.collaborators true true) _ [] := .command _ (.start _ _)
  ⟨h, sessions_released_once h⟩

/-- Along a faithful run what goes out on a session's signaling link is the offer of its peer
session for its validated stream key and then local candidates of its peer, in the order they
were delivered, nothing after its channel closed, and on a link no other session used. -/
theorem signaling_frames_ordered {m : Machine (W × List Call)} {delivered : List SessionEvent}
    (h : Faithful c m delivered) : m.SignalingOrdered c delivered := by
  have hacc := h.accounted
  have hl : Ledger c delivered (Call.ops m.world.2) m.ctl.session := hacc.ledger
  refine ⟨hl.settled.mono (fun _ _ hc => ⟨hc.validated, hc.link⟩)
    (fun _ _ hlive => ⟨hlive.validated, hlive.link⟩), hl.links.nodup hacc.links, ?_, ?_⟩
  · intro hr s link channel hs hsig hh candidate sdpMid sdpMLineIndex
    rw [step_localCandidate_held c.journaled hr hs hsig hh]
    simp
  · intro hunheld e candidate sdpMid sdpMLineIndex he
    exact step_localCandidate_unheld c.journaled hunheld he

theorem connect_signaling_ordered :
    let c := Scenario.World.collaborators true true
    let m := (start default (({} : Scenario.World), [])).step c.journaled
      (.command (.connect ⟨"live", "localhost:8080", .peerToPeer⟩))
    Faithful c m [] ∧ m.SignalingOrdered c [] :=
  have h : Faithful (Scenario.World.collaborators true true) _ [] := .command _ (.start _ _)
  ⟨h, signaling_frames_ordered h⟩

end Machine

end LiveViewer
