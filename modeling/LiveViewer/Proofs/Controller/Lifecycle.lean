import LiveViewer.Proofs.Controller.Producers

/-!
# The session lifecycle

A session holds resources: the surface's media, once bound, a peer session, a segment engine,
a signaling channel with the frames sent on it. Read off the journal, a session's life is a word
of `Op`s: it begins with the connecting overlay, binds the surface at most once and adds tracks
after that, creates its peer session and engine, opens its channel and sends on it, and is
released by closing each of them once and unbinding the surface last.

`Ledger c delivered` says that the ops of a journal are the completed lives of the sessions
released so far, one after the other (`Completed`), followed by what the live session has done
so far (`Live`), or by nothing when none is live; and that every producer op before the live
session's life belongs to an older generation. A release turns the live session's ops into a
completed life (`Trail.completed`), and a connect begins the next one only after that.

What a session sends on its channel is part of its life: the offer of its peer session first,
with the SDP its life shows that peer session answered, then the local candidates of its peer,
in the order the loop handled them (`Sends`).

The handlers are taken one at a time, as in the other proofs of the controller: most of them
are `Quiet` (they make no call that is an op and leave what the ledger reads of the session
alone), and the rest are proved on their own.
-/

namespace LiveViewer

/-- What a collaborator call does to the life of a session. -/
inductive Op where
  /-- The connecting overlay: a session begins. -/
  | begin
  /-- The surface is given its media. -/
  | source
  /-- A track is added to the surface's stream. -/
  | track
  /-- The surface's media is unbound. -/
  | clear
  /-- A peer session is created. -/
  | peer (peer : Nat)
  /-- A peer session is closed. -/
  | closePeer (peer : Nat)
  /-- A segment engine is started. -/
  | engine (engine : Nat)
  /-- A segment engine is stopped. -/
  | stopEngine (engine : Nat)
  /-- A signaling opener is started in generation `generation`. -/
  | opener (generation : Nat)
  /-- A peer session's pump is started in generation `generation`. -/
  | peerPump (generation : Nat)
  /-- A signaling channel opens: its link's pump starts. -/
  | channel (link : Nat)
  /-- A text frame is handed to signaling link `link`. -/
  | frame (link : Nat) (text : String)
  /-- A signaling channel gives up its sending end. -/
  | closeChannel (link : Nat)
  /-- Peer session `peer` answers the request for an offer with the SDP `sdp`. -/
  | offer (peer : Nat) (sdp : String)
  deriving DecidableEq, Repr

namespace Op

/-- A call on the surface's media. -/
@[simp] def isSurface : Op → Bool
  | source | track | clear => true
  | _ => false

/-- A call on a peer session. -/
@[simp] def isPeer : Op → Bool
  | peer _ | closePeer _ => true
  | _ => false

/-- A call on a segment engine. -/
@[simp] def isEngine : Op → Bool
  | engine _ | stopEngine _ => true
  | _ => false

/-- A call on a signaling link. -/
@[simp] def isLink : Op → Bool
  | channel _ | frame .. | closeChannel _ => true
  | _ => false

/-- A signaling opener starts. -/
@[simp] def isOpener : Op → Bool
  | opener _ => true
  | _ => false

/-- A peer session's pump starts. -/
@[simp] def isPeerPump : Op → Bool
  | peerPump _ => true
  | _ => false

/-- The generation a producer op starts its producer in. -/
@[simp] def generation : Op → Option Nat
  | opener g | peerPump g => some g
  | _ => none

/-- The link a channel op opens. -/
@[simp] def channelLink : Op → Option Nat
  | channel link => some link
  | _ => none

end Op

/-- The op a call is, if it is one. -/
@[simp] def Call.op : Call → Option Op
  | .showOverlay overlay => if overlay = some connectingOverlay then some .begin else none
  | .setSource _ => some .source
  | .addTrack _ => some .track
  | .clearSource => some .clear
  | .createPeer _ (.ok peer) => some (.peer peer)
  | .createOffer peer (.ok sdp) => some (.offer peer sdp)
  | .closePeer peer => some (.closePeer peer)
  | .startEngine _ (.ok engine) => some (.engine engine)
  | .stopEngine engine => some (.stopEngine engine)
  | .spawn g (.opener _) _ => some (.opener g)
  | .spawn g (.peerPump _) _ => some (.peerPump g)
  | .spawn _ (.linkPump link) _ => some (.channel link)
  | .sendFrame link text => some (.frame link text)
  | .dropSender link => some (.closeChannel link)
  | _ => none

/-- The ops of a list of calls. -/
def Call.ops (calls : List Call) : List Op := calls.filterMap Call.op

@[simp] theorem Call.ops_nil : Call.ops [] = [] := rfl

@[simp] theorem Call.ops_append (xs ys : List Call) :
    Call.ops (xs ++ ys) = Call.ops xs ++ Call.ops ys :=
  List.filterMap_append

@[simp] theorem Call.ops_cons (x : Call) (xs : List Call) :
    Call.ops (x :: xs) = (x.op).toList ++ Call.ops xs := by
  unfold Call.ops
  rw [List.filterMap_cons]
  cases x.op <;> rfl

/-- The frames the peer events of generation `g` among `delivered` asked to send: the encodings of
their local candidates, in the order they were delivered. -/
def candidateFrames (delivered : List SessionEvent) (g : Nat) : List String :=
  delivered.filterMap fun e =>
    if e.generation = g then
      match e.kind with
      | .peer (.localCandidate candidate sdpMid sdpMLineIndex) =>
        some (SignalMessage.iceCandidate candidate sdpMid sdpMLineIndex).encode
      | _ => none
    else none

namespace ActiveSession

/-- The surface's media is bound: to a remote stream, or to a playlist. -/
def sourceSet (s : ActiveSession) : Bool := s.boundStream.isSome || s.playback.isSome

/-- The session's segment engine, if it has one. -/
def engine (s : ActiveSession) : Option Nat :=
  match s.playback with
  | some (.engine e) => some e
  | _ => none

/-- What the session's signaling link went through, given the frames sent on it: it opened,
the frames went out, and it gave up its sending end if the channel no longer holds it. -/
def linkOps (s : ActiveSession) (frames : List String) : List Op :=
  match s.signaling with
  | some (link, channel) =>
    .channel link :: frames.map (.frame link) ++ if channel.holding then [] else [.closeChannel link]
  | none => []

/-- The ops of releasing the session: its engine stopped, its peer session closed, its channel's
sending end given up if it still holds it, and the surface unbound last. -/
def releaseOps (s : ActiveSession) : List Op :=
  s.engine.toList.map .stopEngine ++ s.peer.toList.map .closePeer ++
    (match s.signaling with
      | some (link, channel) => if channel.holding then [.closeChannel link] else []
      | none => []) ++
    [.clear]

/-- What the session, whose life so far is `body`, sent on its link: nothing, or the offer of its
peer session for its stream key, with the SDP that peer session answered in the session's life,
followed by local candidates of its peer, delivered in its generation and sent in the order they
were delivered. -/
def Sends {W : Type} (c : Collaborators W) (delivered : List SessionEvent) (s : ActiveSession)
    (body : List Op) (frames : List String) : Prop :=
  frames = [] ∨ ∃ peer sdp candidates, s.peer = some peer ∧
    frames = (SignalMessage.offer s.request.streamKey sdp).encode :: candidates ∧
    Op.offer peer sdp ∈ body ∧ (∃ w, (c.createOffer peer w).1 = .ok sdp) ∧
    candidates.Sublist (candidateFrames delivered s.generation)

end ActiveSession

section Lives

variable {W : Type} (c : Collaborators W) (delivered : List SessionEvent)

/-- The ops of a session from its beginning to its release: no other session began, the surface
was bound at most once, every track came after the binding and the unbinding came last, its
peer session and engine were each opened and closed once or not at all, and its channel opened,
sent what `Sends` allows and gave up its sending end once, or never opened. -/
structure Completed (s : ActiveSession) (body : List Op) : Prop where
  no_begin : Op.begin ∉ body
  last_clear : body.getLast? = some .clear
  surface : body.filter Op.isSurface = [.clear] ∨
    ∃ n, body.filter Op.isSurface = .source :: List.replicate n .track ++ [.clear]
  peer : body.filter Op.isPeer = [] ∨ ∃ p, body.filter Op.isPeer = [.peer p, .closePeer p]
  engine : body.filter Op.isEngine = [] ∨ ∃ e, body.filter Op.isEngine = [.engine e, .stopEngine e]
  link : body.filter Op.isLink = [] ∨ ∃ link frames, s.signaling.map Prod.fst = some link ∧
    body.filter Op.isLink = .channel link :: frames.map (.frame link) ++ [.closeChannel link] ∧
    s.Sends c delivered body frames
  validated : s.request.validated = .ok s.request
  generations : ∀ op ∈ body, ∀ g, op.generation = some g → g = s.generation

/-- What the live session `s` has done since it began: no other session began, its surface was
bound at most once with tracks after it, the peer session, engine and channel it opened are the
ones it holds, and what it sent on the channel is what `Sends` allows. -/
structure Trail (s : ActiveSession) (body : List Op) : Prop where
  no_begin : Op.begin ∉ body
  surface : body.filter Op.isSurface = [] ∨
    ∃ n, body.filter Op.isSurface = .source :: List.replicate n .track
  peer : body.filter Op.isPeer = s.peer.toList.map .peer
  engine : body.filter Op.isEngine = s.engine.toList.map .engine
  link : ∃ frames, body.filter Op.isLink = s.linkOps frames ∧ s.Sends c delivered body frames
  validated : s.request.validated = .ok s.request
  generations : ∀ op ∈ body, ∀ g, op.generation = some g → g = s.generation

/-- The trail of the live session, which also says whether its surface is bound; and what the
handlers rely on of it: a peer-to-peer session has no playlist, a channel and an opener belong
to a peer-to-peer session, the session has a peer session once its channel is open, a peer pump
only together with a peer session, at most one opener, a channel only after its opener
reported, and the offer sent once it has a peer session. -/
structure Live (s : ActiveSession) (body : List Op) : Prop extends Trail c delivered s body where
  bound : body.filter Op.isSurface = [] ↔ s.sourceSet = false
  peerToPeer : s.request.transport = .peerToPeer → s.playback = none
  channel_peerToPeer : s.signaling.isSome → s.request.transport = .peerToPeer
  peer_after_channel : s.signaling = none → s.peer = none
  openers : (body.filter Op.isOpener).length ≤ 1
  opener_peerToPeer : body.filter Op.isOpener ≠ [] → s.request.transport = .peerToPeer
  peerPump : body.filter Op.isPeerPump ≠ [] → s.peer.isSome
  opened : s.signaling.isSome → 0 < Machine.openedIn delivered s.generation
  offered : s.peer.isSome → ∃ link text, Op.frame link text ∈ body

end Lives

namespace ActiveSession

variable (s : ActiveSession)

theorem begin_not_mem_releaseOps : Op.begin ∉ s.releaseOps := by
  unfold releaseOps
  cases s.engine <;> cases s.peer <;> (try split) <;> (try split) <;> simp

theorem releaseOps_surface : s.releaseOps.filter Op.isSurface = [.clear] := by
  unfold releaseOps
  cases s.engine <;> cases s.peer <;> (try split) <;> (try split) <;>
    simp [List.filter_cons, Op.isSurface]

theorem releaseOps_peer : s.releaseOps.filter Op.isPeer = s.peer.toList.map .closePeer := by
  unfold releaseOps
  cases s.engine <;> cases s.peer <;> (try split) <;> (try split) <;>
    simp [List.filter_cons, Op.isPeer]

theorem releaseOps_engine : s.releaseOps.filter Op.isEngine = s.engine.toList.map .stopEngine := by
  unfold releaseOps
  cases s.engine <;> cases s.peer <;> (try split) <;> (try split) <;>
    simp [List.filter_cons, Op.isEngine]

theorem releaseOps_link :
    s.releaseOps.filter Op.isLink =
      match s.signaling with
      | some (link, channel) => if channel.holding then [.closeChannel link] else []
      | none => [] := by
  unfold releaseOps
  cases s.engine <;> cases s.peer <;> (try split) <;> (try split) <;>
    simp_all [List.filter_cons, Op.isLink]

theorem releaseOps_getLast : s.releaseOps.getLast? = some .clear := by
  simp [releaseOps]

theorem releaseOps_generation : ∀ op ∈ s.releaseOps, op.generation = none := by
  unfold releaseOps
  cases s.engine <;> cases s.peer <;> (try split) <;> (try split) <;> simp [Op.generation]

end ActiveSession

section Lives

variable {W : Type} {c : Collaborators W} {delivered : List SessionEvent}

/-- What a session sent stays allowed as its life goes on: the answer its offer carries stays in
its life. -/
theorem ActiveSession.Sends.append_body {s : ActiveSession} {body : List Op}
    {frames : List String} (h : s.Sends c delivered body frames) (more : List Op) :
    s.Sends c delivered (body ++ more) frames := by
  rcases h with h | ⟨peer, sdp, candidates, hp, hf, hb, ho, hc⟩
  · exact .inl h
  · exact .inr ⟨peer, sdp, candidates, hp, hf, List.mem_append_left more hb, ho, hc⟩

/-- Releasing a live session completes its life. -/
theorem Trail.completed {s : ActiveSession} {body : List Op} (h : Trail c delivered s body) :
    Completed c delivered s (body ++ s.releaseOps) where
  no_begin := by
    simp only [List.mem_append, not_or]
    exact ⟨h.no_begin, s.begin_not_mem_releaseOps⟩
  last_clear := by
    rw [List.getLast?_append, s.releaseOps_getLast]
    rfl
  surface := by
    rw [List.filter_append, s.releaseOps_surface]
    rcases h.surface with hs | ⟨n, hs⟩
    · exact .inl (by simp [hs])
    · exact .inr ⟨n, by simp [hs]⟩
  peer := by
    rw [List.filter_append, h.peer, s.releaseOps_peer]
    cases s.peer with
    | none => exact .inl rfl
    | some p => exact .inr ⟨p, rfl⟩
  engine := by
    rw [List.filter_append, h.engine, s.releaseOps_engine]
    cases s.engine with
    | none => exact .inl rfl
    | some e => exact .inr ⟨e, rfl⟩
  link := by
    obtain ⟨frames, hl, hs⟩ := h.link
    rw [List.filter_append, hl, s.releaseOps_link]
    unfold ActiveSession.linkOps
    -- The sending end is given up once: when the link ended, or by the release.
    cases hsig : s.signaling with
    | none => exact .inl rfl
    | some pair =>
      obtain ⟨link, channel⟩ := pair
      refine .inr ⟨link, frames, by simp, ?_, hs.append_body _⟩
      cases hh : channel.holding <;> simp [hh]
  validated := h.validated
  generations := by
    intro op hop g hg
    rcases List.mem_append.1 hop with hop | hop
    · exact h.generations op hop g hg
    · rw [s.releaseOps_generation op hop] at hg
      cases hg

end Lives

/-- Aborting producers makes no op. -/
theorem Call.ops_aborts (ids : List Nat) : Call.ops (ids.map .abort) = [] := by
  induction ids with
  | nil => rfl
  | cons id ids ih => simp [ih]

namespace Collaborators

variable {W : Type}

/-- A release's ops are the session's release ops; the aborts are none. -/
theorem releaseCalls_ops (s : ActiveSession) (stats : Option Nat) :
    Call.ops (releaseCalls s stats) = s.releaseOps := by
  unfold releaseCalls ActiveSession.releaseOps ActiveSession.engine
  simp only [Call.ops_append]
  rw [Call.ops_aborts, Call.ops_aborts]
  cases s.peer <;> (repeat' split) <;> simp_all

theorem teardownCalls_ops (k : Controller) :
    Call.ops (teardownCalls k) = (k.session.map ActiveSession.releaseOps).getD [] := by
  unfold teardownCalls timerAborts
  cases k.session <;> simp [Call.ops_aborts, releaseCalls_ops]

end Collaborators

/-- What the ledger reads of a session: the stream bound to the surface, the playlist, the peer
session, the signaling link, the request and the generation. -/
def ActiveSession.resources (s : ActiveSession) :=
  (s.boundStream, s.playback, s.peer, s.signaling, s.request, s.generation)

section Lives

variable {W : Type} {c : Collaborators W} {delivered : List SessionEvent}

theorem Trail.of_resources {s s' : ActiveSession} {body : List Op} (h : Trail c delivered s body)
    (he : s'.resources = s.resources) : Trail c delivered s' body := by
  simp only [ActiveSession.resources, Prod.mk.injEq] at he
  obtain ⟨-, hp, hpeer, hsig, hreq, hgen⟩ := he
  have hsends : ∀ frames, s.Sends c delivered body frames → s'.Sends c delivered body frames := by
    intro frames hf
    unfold ActiveSession.Sends at hf ⊢
    rw [hpeer, hreq, hgen]
    exact hf
  obtain ⟨frames, hl, hs⟩ := h.link
  refine ⟨h.no_begin, h.surface, ?_, ?_, ⟨frames, ?_, hsends frames hs⟩, ?_, ?_⟩
  · rw [hpeer]; exact h.peer
  · rw [show s'.engine = s.engine by simp [ActiveSession.engine, hp]]; exact h.engine
  · rw [show s'.linkOps frames = s.linkOps frames by simp [ActiveSession.linkOps, hsig]]
    exact hl
  · rw [hreq]; exact h.validated
  · rw [hgen]; exact h.generations

theorem Live.of_resources {s s' : ActiveSession} {body : List Op} (h : Live c delivered s body)
    (he : s'.resources = s.resources) : Live c delivered s' body := by
  have ht := h.toTrail.of_resources he
  simp only [ActiveSession.resources, Prod.mk.injEq] at he
  obtain ⟨hb, hp, hpeer, hsig, hreq, hgen⟩ := he
  refine ⟨ht, ?_, ?_, ?_, ?_, h.openers, ?_, ?_, ?_, ?_⟩
  · rw [show s'.sourceSet = s.sourceSet by simp [ActiveSession.sourceSet, hb, hp]]
    exact h.bound
  · rw [hreq, hp]; exact h.peerToPeer
  · rw [hsig, hreq]; exact h.channel_peerToPeer
  · rw [hsig, hpeer]; exact h.peer_after_channel
  · rw [hreq]; exact h.opener_peerToPeer
  · rw [hpeer]; exact h.peerPump
  · rw [hsig, hgen]; exact h.opened
  · rw [hpeer]; exact h.offered

end Lives

/-- The ops of a journal split at the sessions' begin ops: the completed lives of the sessions
released so far, each with the session as it was released, then what the live session has done
since its begin op, of which `P` is said, or nothing when no session is live. Every producer op
before the live session began belongs to an older generation. -/
def Settled (Q P : ActiveSession → List Op → Prop) (ops : List Op)
    (session : Option ActiveSession) : Prop :=
  ∃ lives : List (ActiveSession × List Op), ∃ rest : List Op,
    ops = (lives.map fun life => Op.begin :: life.2).flatten ++ rest ∧
    (∀ life ∈ lives, Q life.1 life.2) ∧
    match session with
    | none => rest = []
    | some s => ∃ body, rest = Op.begin :: body ∧ P s body ∧
        ∀ op ∈ (lives.map fun life => Op.begin :: life.2).flatten, ∀ g, op.generation = some g →
          g < s.generation

/-- The links the successful signaling opens among `delivered` brought, in delivery order. -/
def reportedLinks (delivered : List SessionEvent) : List Nat :=
  delivered.filterMap fun e => e.kind.openedLink

section Ledgers

variable {W : Type} (c : Collaborators W) (delivered : List SessionEvent)

/-- The ledger of a journal's ops: the completed lives, then the live session's live trail; and
each channel opened on a link that a delivered signaling open brought, in delivery order. -/
structure Ledger (ops : List Op) (session : Option ActiveSession) : Prop where
  settled : Settled (Completed c delivered) (Live c delivered) ops session
  links : (ops.filterMap Op.channelLink).Sublist (reportedLinks delivered)

/-- The ledger as far as a release needs it: the live session's ops are its trail, whose binding
of the surface the session may not show yet. -/
structure Releasable (ops : List Op) (session : Option ActiveSession) : Prop where
  settled : Settled (Completed c delivered) (Trail c delivered) ops session
  links : (ops.filterMap Op.channelLink).Sublist (reportedLinks delivered)

end Ledgers

namespace Settled

variable {Q Q' P P' : ActiveSession → List Op → Prop}

theorem nil : Settled Q P [] none := ⟨[], [], rfl, by simp, rfl⟩

theorem mono {ops : List Op} {session : Option ActiveSession} (h : Settled Q P ops session)
    (hQ : ∀ s body, Q s body → Q' s body) (hP : ∀ s body, P s body → P' s body) :
    Settled Q' P' ops session := by
  obtain ⟨lives, rest, hops, hlives, hrest⟩ := h
  refine ⟨lives, rest, hops, fun life hlife => hQ _ _ (hlives life hlife), ?_⟩
  cases session with
  | none => exact hrest
  | some s =>
    obtain ⟨body, hb, hPs, hg⟩ := hrest
    exact ⟨body, hb, hP s body hPs, hg⟩

/-- With no live session, nothing is said of one. -/
theorem of_none {ops : List Op} (h : Settled Q P ops none) : Settled Q P' ops none := by
  obtain ⟨lives, rest, hops, hlives, hrest⟩ := h
  exact ⟨lives, rest, hops, hlives, hrest⟩

/-- Another session with the same resources, and the same ops, settle alike. -/
theorem of_resources {ops : List Op} {session session' : Option ActiveSession}
    (h : Settled Q P ops session)
    (hP : ∀ s s' body, P s body → s'.resources = s.resources → P s' body)
    (hs : session'.map ActiveSession.resources = session.map ActiveSession.resources) :
    Settled Q P ops session' := by
  obtain ⟨lives, rest, hops, hlives, hrest⟩ := h
  refine ⟨lives, rest, hops, hlives, ?_⟩
  cases session with
  | none =>
    cases session' with
    | none => exact hrest
    | some s' => simp at hs
  | some s =>
    obtain ⟨body, hb, hPs, hg⟩ := hrest
    cases session' with
    | none => simp at hs
    | some s' =>
      simp only [Option.map_some, Option.some.injEq] at hs
      have hgen : s'.generation = s.generation := by
        simp only [ActiveSession.resources, Prod.mk.injEq] at hs
        exact hs.2.2.2.2.2
      exact ⟨body, hb, hP s s' body hPs hs, by rw [hgen]; exact hg⟩

/-- When the last op is a begin op, the live session has done nothing yet. -/
theorem last_begin {ops : List Op} {s : ActiveSession} (h : Settled Q P ops (some s))
    (hP : ∀ s body, P s body → Op.begin ∉ body) (hlast : ops.getLast? = some .begin) :
    Settled Q (fun s body => P s body ∧ body = []) ops (some s) := by
  obtain ⟨lives, rest, hops, hlives, body, hrest, hPs, hg⟩ := h
  refine ⟨lives, rest, hops, hlives, body, hrest, ⟨hPs, ?_⟩, hg⟩
  -- Otherwise the last op would be the body's last, and the body has no begin op.
  rcases List.eq_nil_or_concat body with hnil | ⟨body, op, rfl⟩
  · exact hnil
  · rw [hops, hrest, List.concat_eq_append, ← List.cons_append, ← List.append_assoc,
      List.getLast?_concat] at hlast
    have hop : op = .begin := by simpa using hlast
    exact absurd (by simp [hop]) (hP s _ hPs)

/-- What the live session does next is written after its ops. -/
theorem append {ops : List Op} {s s' : ActiveSession} (h : Settled Q P ops (some s))
    (δ : List Op) (hgen : s'.generation = s.generation)
    (hδ : ∀ body, P s body → P' s' (body ++ δ)) : Settled Q P' (ops ++ δ) (some s') := by
  obtain ⟨lives, rest, rfl, hlives, body, rfl, hP, hg⟩ := h
  exact ⟨lives, .begin :: (body ++ δ), by simp, hlives, body ++ δ, rfl, hδ body hP,
    by rw [hgen]; exact hg⟩

/-- Releasing the live session completes its life. -/
theorem release {ops : List Op} {s : ActiveSession} (h : Settled Q P ops (some s))
    (δ : List Op) (hδ : ∀ body, P s body → Q s (body ++ δ)) : Settled Q P' (ops ++ δ) none := by
  obtain ⟨lives, rest, rfl, hlives, body, rfl, hP, -⟩ := h
  refine ⟨lives ++ [(s, body ++ δ)], [], by simp, ?_, rfl⟩
  intro life hlife
  rcases List.mem_append.1 hlife with hlife | hlife
  · exact hlives life hlife
  · rw [List.mem_singleton.1 hlife]
    exact hδ body hP

/-- A session begins when none is live, in a generation after every producer op so far. -/
theorem begin {ops : List Op} (h : Settled Q P ops none) {s : ActiveSession}
    (hg : ∀ op ∈ ops, ∀ g, op.generation = some g → g < s.generation) (hP : P s []) :
    Settled Q P (ops ++ [.begin]) (some s) := by
  obtain ⟨lives, rest, rfl, hlives, hrest⟩ := h
  have hrest : rest = [] := hrest
  subst hrest
  refine ⟨lives, [.begin], by simp, hlives, [], rfl, hP, ?_⟩
  intro op hop g hop'
  exact hg op (by simpa using hop) g hop'

end Settled

/-! ## More events delivered

What the ledger says stays true when more events are delivered: a sent candidate stays among the
delivered ones, and a report stays delivered. -/

section Delivered

variable {W : Type} {c : Collaborators W} {delivered : List SessionEvent} (more : List SessionEvent)

theorem candidateFrames_append (g : Nat) :
    candidateFrames (delivered ++ more) g = candidateFrames delivered g ++ candidateFrames more g :=
  List.filterMap_append

theorem openedIn_le_append (g : Nat) :
    Machine.openedIn delivered g ≤ Machine.openedIn (delivered ++ more) g := by
  simp [Machine.openedIn, List.filter_append]

theorem ActiveSession.Sends.append_delivered {s : ActiveSession} {body : List Op}
    {frames : List String} (h : s.Sends c delivered body frames) :
    s.Sends c (delivered ++ more) body frames := by
  rcases h with h | ⟨peer, sdp, candidates, hp, hf, hb, ho, hc⟩
  · exact .inl h
  · refine .inr ⟨peer, sdp, candidates, hp, hf, hb, ho, ?_⟩
    rw [candidateFrames_append]
    exact hc.trans (List.sublist_append_left _ _)

theorem Completed.append_delivered {s : ActiveSession} {body : List Op}
    (h : Completed c delivered s body) : Completed c (delivered ++ more) s body :=
  { h with
    link := by
      rcases h.link with hl | ⟨link, frames, hs, hl, hsends⟩
      · exact .inl hl
      · exact .inr ⟨link, frames, hs, hl, hsends.append_delivered more⟩ }

theorem Trail.append_delivered {s : ActiveSession} {body : List Op}
    (h : Trail c delivered s body) : Trail c (delivered ++ more) s body :=
  { h with
    link := by
      obtain ⟨frames, hl, hsends⟩ := h.link
      exact ⟨frames, hl, hsends.append_delivered more⟩ }

theorem Live.append_delivered {s : ActiveSession} {body : List Op}
    (h : Live c delivered s body) : Live c (delivered ++ more) s body :=
  { h with
    toTrail := h.toTrail.append_delivered more
    opened := fun hs => Nat.lt_of_lt_of_le (h.opened hs) (openedIn_le_append more _) }

theorem reportedLinks_append :
    reportedLinks (delivered ++ more) = reportedLinks delivered ++ reportedLinks more :=
  List.filterMap_append

theorem Ledger.append_delivered {ops : List Op} {session : Option ActiveSession}
    (h : Ledger c delivered ops session) : Ledger c (delivered ++ more) ops session where
  settled := h.settled.mono (fun _ _ hl => hl.append_delivered more)
    fun _ _ hl => hl.append_delivered more
  links := by
    rw [reportedLinks_append]
    exact h.links.trans (List.sublist_append_left _ _)

end Delivered

section Ledgers

variable {W : Type} {c : Collaborators W} {delivered : List SessionEvent}

theorem ActiveSession.releaseOps_channelLink (s : ActiveSession) :
    s.releaseOps.filterMap Op.channelLink = [] := by
  unfold ActiveSession.releaseOps
  cases s.engine <;> cases s.peer <;> (try split) <;> (try split) <;> simp [Op.channelLink]

theorem Ledger.releasable {ops : List Op} {session : Option ActiveSession}
    (h : Ledger c delivered ops session) : Releasable c delivered ops session :=
  ⟨h.settled.mono (fun _ _ => id) fun _ _ hlive => hlive.toTrail, h.links⟩

/-- A fresh session holds nothing yet and has done nothing: it is live. -/
theorem Live.fresh {s : ActiveSession} (hsig : s.signaling = none) (hpeer : s.peer = none)
    (hplay : s.playback = none) (hbound : s.boundStream = none)
    (hv : s.request.validated = .ok s.request) : Live c delivered s [] where
  no_begin := by simp
  surface := .inl rfl
  peer := by simp [hpeer]
  engine := by simp [ActiveSession.engine, hplay]
  link := ⟨[], by simp [ActiveSession.linkOps, hsig], .inl rfl⟩
  validated := hv
  generations := by simp
  bound := by simp [ActiveSession.sourceSet, hbound, hplay]
  peerToPeer := fun _ => hplay
  channel_peerToPeer := by simp [hsig]
  peer_after_channel := fun _ => hpeer
  openers := by simp
  opener_peerToPeer := by simp
  peerPump := by simp
  opened := by simp [hsig]
  offered := by simp [hpeer]

/-- Releasing the live session completes its life. -/
theorem Releasable.release {ops : List Op} {s : ActiveSession}
    (h : Releasable c delivered ops (some s)) : Ledger c delivered (ops ++ s.releaseOps) none where
  settled := Settled.release h.settled _ fun _ htrail => htrail.completed
  links := by
    rw [List.filterMap_append, s.releaseOps_channelLink, List.append_nil]
    exact h.links

/-- Releasing whatever session is live. -/
theorem Releasable.teardown {ops : List Op} {session : Option ActiveSession}
    (h : Releasable c delivered ops session) :
    Ledger c delivered (ops ++ (session.map ActiveSession.releaseOps).getD []) none := by
  cases session with
  | none => exact ⟨by simpa using h.settled.of_none, by simpa using h.links⟩
  | some s => exact h.release

/-- A session begins when none is live, in a generation after every producer op so far. -/
theorem Ledger.begin {ops : List Op} (h : Ledger c delivered ops none) {s : ActiveSession}
    (hg : ∀ op ∈ ops, ∀ g, op.generation = some g → g < s.generation)
    (hlive : Live c delivered s []) : Ledger c delivered (ops ++ [.begin]) (some s) where
  settled := h.settled.begin hg hlive
  links := by
    rw [List.filterMap_append, show [Op.begin].filterMap Op.channelLink = [] from rfl,
      List.append_nil]
    exact h.links

/-- The live session goes on with ops that open no channel. -/
theorem Ledger.append {ops : List Op} {s s' : ActiveSession} (h : Ledger c delivered ops (some s))
    (δ : List Op) (hδ : δ.filterMap Op.channelLink = []) (hgen : s'.generation = s.generation)
    (hlive : ∀ body, Live c delivered s body → Live c delivered s' (body ++ δ)) :
    Ledger c delivered (ops ++ δ) (some s') where
  settled := h.settled.append δ hgen hlive
  links := by
    rw [List.filterMap_append, hδ, List.append_nil]
    exact h.links

/-- The live session goes on, for a release, with ops that open no channel. -/
theorem Releasable.append {ops : List Op} {s s' : ActiveSession}
    (h : Releasable c delivered ops (some s)) (δ : List Op)
    (hδ : δ.filterMap Op.channelLink = []) (hgen : s'.generation = s.generation)
    (htrail : ∀ body, Trail c delivered s body → Trail c delivered s' (body ++ δ)) :
    Releasable c delivered (ops ++ δ) (some s') where
  settled := h.settled.append δ hgen htrail
  links := by
    rw [List.filterMap_append, hδ, List.append_nil]
    exact h.links

end Ledgers

namespace Machine

variable {W : Type} (c : Collaborators W) (delivered : List SessionEvent)

/-- The ledger of a journaled machine: its journal's ops against its live session. -/
def ledger (m : Machine (W × List Call)) : Prop :=
  Ledger c delivered (Call.ops m.world.2) m.ctl.session

/-- What a release needs of a journaled machine. -/
def releasable (m : Machine (W × List Call)) : Prop :=
  Releasable c delivered (Call.ops m.world.2) m.ctl.session

variable {c delivered}

theorem ledger.releasable {m : Machine (W × List Call)} (h : m.ledger c delivered) :
    m.releasable c delivered :=
  Ledger.releasable h

/-- From `m` to `m'` nothing happened that the ledger reads: the calls made are no ops, and a
live session kept what the ledger reads of it. -/
def Quiet (m m' : Machine (W × List Call)) : Prop :=
  (∃ calls, m'.world.2 = m.world.2 ++ calls ∧ Call.ops calls = []) ∧
    m'.ctl.session.map ActiveSession.resources = m.ctl.session.map ActiveSession.resources

namespace Quiet

theorem refl (m : Machine (W × List Call)) : Quiet m m := ⟨⟨[], by simp, rfl⟩, rfl⟩

theorem trans {m₁ m₂ m₃ : Machine (W × List Call)} (h₁ : Quiet m₁ m₂) (h₂ : Quiet m₂ m₃) :
    Quiet m₁ m₃ := by
  obtain ⟨⟨calls₁, hw₁, hq₁⟩, hs₁⟩ := h₁
  obtain ⟨⟨calls₂, hw₂, hq₂⟩, hs₂⟩ := h₂
  exact ⟨⟨calls₁ ++ calls₂, by rw [hw₂, hw₁, List.append_assoc], by simp [hq₁, hq₂]⟩,
    hs₂.trans hs₁⟩

/-- A step that writes calls that are no ops and keeps the live session's resources. -/
theorem extend {m₀ m m' : Machine (W × List Call)} (h : Quiet m₀ m) (calls : List Call)
    (hw : m'.world.2 = m.world.2 ++ calls) (hq : Call.ops calls = [])
    (hs : m'.ctl.session.map ActiveSession.resources =
      m.ctl.session.map ActiveSession.resources) : Quiet m₀ m' :=
  h.trans ⟨⟨calls, hw, hq⟩, hs⟩

theorem ops_eq {m m' : Machine (W × List Call)} (hq : Quiet m m') :
    Call.ops m'.world.2 = Call.ops m.world.2 := by
  obtain ⟨⟨calls, hw, hops⟩, -⟩ := hq
  rw [hw, Call.ops_append, hops, List.append_nil]

theorem ledger {m m' : Machine (W × List Call)} (hq : Quiet m m') (h : m.ledger c delivered) :
    m'.ledger c delivered := by
  unfold Machine.ledger
  rw [hq.ops_eq]
  exact ⟨h.settled.of_resources (fun _ _ _ hlive he => hlive.of_resources he) hq.2, h.links⟩

theorem releasable {m m' : Machine (W × List Call)} (hq : Quiet m m')
    (h : m.releasable c delivered) : m'.releasable c delivered := by
  unfold Machine.releasable
  rw [hq.ops_eq]
  exact ⟨h.settled.of_resources (fun _ _ _ htrail he => htrail.of_resources he) hq.2, h.links⟩

end Quiet

end Machine

/-- Only a connect shows the connecting overlay. -/
theorem disconnectedOverlay_ne : some disconnectedOverlay ≠ some connectingOverlay := by
  simp [disconnectedOverlay, connectingOverlay]

theorem PlaybackEvent.overlayText_ne (event : PlaybackEvent) :
    event.overlayText ≠ some connectingOverlay := by
  cases event <;> simp [PlaybackEvent.overlayText, connectingOverlay]
  -- An error's overlay starts with another letter.
  intro h
  have := congrArg (fun text => text.toList.take 1) h
  simp [String.toList_append] at this

/-- A producer that is no op: neither a signaling opener nor a pump of a link or a peer
session. -/
def Producer.Quiet : Producer → Prop
  | .opener _ | .linkPump _ | .peerPump _ => False
  | _ => True

namespace Act

open Machine Collaborators

variable {W : Type} (c : Collaborators W) {m₀ m : Machine (W × List Call)}

/-! ## Quiet steps

As for the tags, each lemma carries `Quiet m₀ m` over one step taken from `m`. -/

theorem update_quiet (f : Controller → Controller) (hf : ∀ k, (f k).session = k.session)
    (h : Quiet m₀ m) : Quiet m₀ ((update f : Act (W × List Call) Unit).run m).2 :=
  h.extend [] (by simp) rfl (by simp [hf])

theorem updateTimers_quiet (f : Timers → Timers) (h : Quiet m₀ m) :
    Quiet m₀ ((updateTimers f : Act (W × List Call) Unit).run m).2 :=
  h.extend [] (by simp) rfl (by simp)

theorem publish_quiet (h : Quiet m₀ m) :
    Quiet m₀ ((publish : Act (W × List Call) Unit).run m).2 :=
  h.extend [] (by simp) rfl (by simp)

/-- A call on the world that is no op. -/
theorem touch_quiet (f : W × List Call → W × List Call)
    (hf : ∀ w, ∃ calls, (f w).2 = w.2 ++ calls ∧ Call.ops calls = []) (h : Quiet m₀ m) :
    Quiet m₀ ((touch f).run m).2 := by
  obtain ⟨calls, hw, hq⟩ := hf m.world
  exact h.extend calls hw hq rfl

/-- A question to the world that is no op. -/
theorem ask_quiet {α : Type} (f : W × List Call → α × (W × List Call))
    (hf : ∀ w, ∃ calls, (f w).2.2 = w.2 ++ calls ∧ Call.ops calls = []) (h : Quiet m₀ m) :
    Quiet m₀ ((ask f).run m).2 := by
  obtain ⟨calls, hw, hq⟩ := hf m.world
  exact h.extend calls hw hq rfl

theorem log_quiet (level : Level) (message : String) (h : Quiet m₀ m) :
    Quiet m₀ ((log c.journaled level message).run m).2 :=
  h.extend [.record ⟨level, message⟩] (by simp) (by simp) rfl

theorem setOverlay_quiet (overlay : Option String) (ho : overlay ≠ some connectingOverlay)
    (h : Quiet m₀ m) : Quiet m₀ ((setOverlay c.journaled overlay).run m).2 :=
  h.extend [.showOverlay overlay] (by simp) (by simp [ho]) rfl

/-- Starting a producer that is no op. -/
theorem spawn_quiet (p : Producer) (hp : p.Quiet) (h : Quiet m₀ m) :
    Quiet m₀ ((spawn c.journaled p).run m).2 :=
  h.extend [.spawn m.ctl.generation p (c.spawn m.ctl.generation p m.world.1).1] (by simp)
    (by cases p <;> simp_all [Producer.Quiet]) rfl

theorem startViewerCountTimer_quiet (h : Quiet m₀ m) :
    Quiet m₀ ((startViewerCountTimer c.journaled).run m).2 := by
  unfold startViewerCountTimer
  simp only [StateT.run_bind, current_run, id_bind, pure_fst, pure_snd]
  split
  · exact h
  · split
    · simp only [StateT.run_bind, id_bind]
      exact updateTimers_quiet _ (spawn_quiet c _ trivial h)
    · exact h

theorem startStatsSampler_quiet (h : Quiet m₀ m) :
    Quiet m₀ ((startStatsSampler c.journaled).run m).2 := by
  unfold startStatsSampler
  simp only [StateT.run_bind, current_run, id_bind, pure_fst, pure_snd]
  split
  · exact h
  · split
    · simp only [StateT.run_bind, id_bind]
      exact updateTimers_quiet _ (spawn_quiet c _ trivial (update_quiet _ (fun _ => rfl) h))
    · exact h

theorem markConnected_quiet (h : Quiet m₀ m) :
    Quiet m₀ ((markConnected c.journaled).run m).2 := by
  by_cases hs : m.ctl.status = .connecting
  · simp only [markConnected, StateT.run_bind, current_run, hs, id_bind, pure_fst, pure_snd,
      bne_self_eq_false, Bool.false_eq_true, if_false]
    exact publish_quiet (startViewerCountTimer_quiet c (log_quiet c _ _
      (setOverlay_quiet c _ (by simp) (update_quiet _ (fun _ => rfl) h))))
  · rw [markConnected_of_ne _ hs]
    exact h

theorem scheduleReconnect_quiet (request : ConnectRequest) (delayMs : Nat) (h : Quiet m₀ m) :
    Quiet m₀ ((scheduleReconnect c.journaled request delayMs).run m).2 := by
  unfold scheduleReconnect
  simp only [StateT.run_bind, id_bind, current_run, pure_fst, pure_snd]
  have h₁ := spawn_quiet c (.reconnectTimer delayMs) trivial h
  split
  · simp only [StateT.run_bind, id_bind]
    exact updateTimers_quiet _ (touch_quiet _ (by simp) h₁)
  · exact updateTimers_quiet _ h₁

theorem onStatsReport_quiet (report : Option InboundReport) (h : Quiet m₀ m) :
    Quiet m₀ ((onStatsReport report : Act (W × List Call) Unit).run m).2 := by
  -- A stats reading only changes the sampler and the figures.
  have hw : ((onStatsReport report : Act (W × List Call) Unit).run m).2.world = m.world := by
    cases hs : m.ctl.status <;> cases report <;> simp [onStatsReport, hs]
  refine h.extend [] (by rw [hw, List.append_nil]) rfl ?_
  rw [onStatsReport_ctl]
  split <;> rfl

theorem onViewerCount_quiet (result : Except String UInt32) (h : Quiet m₀ m) :
    Quiet m₀ ((onViewerCount result : Act (W × List Call) Unit).run m).2 := by
  cases result with
  | ok count => exact publish_quiet (update_quiet _ (fun _ => rfl) h)
  | error message => exact h

theorem handlePlayback_quiet (event : PlaybackEvent) (h : Quiet m₀ m) :
    Quiet m₀ ((handlePlayback c.journaled event).run m).2 := by
  unfold handlePlayback
  cases event with
  | error message =>
    exact publish_quiet (setOverlay_quiet c _ (PlaybackEvent.overlayText_ne _)
      (log_quiet c _ _ h))
  | _ => exact publish_quiet (setOverlay_quiet c _ (PlaybackEvent.overlayText_ne _) h)

end Act

end LiveViewer
