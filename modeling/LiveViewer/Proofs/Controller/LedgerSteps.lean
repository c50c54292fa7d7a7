import LiveViewer.Proofs.Controller.Lifecycle
import LiveViewer.Proofs.Session.Request

/-!
# The ledger, handler by handler

Each lemma takes a journaled machine whose ledger holds (`Machine.ledger`), or holds as far as a
release needs (`Machine.releasable`), and shows the ledger after one handler. The handlers that
make no op are `Quiet` and were done beside the ledger's definition; these are the others:

* the teardowns (`endSession`, `failSetup`, `disconnect`, a transport failure) complete the live
  session's life with its release ops;
* a connect completes the old life and begins a new one, and its transport's first ops go into
  it: the opener of a peer-to-peer session, the binding and the engine of a segmented one;
* a signaling open, while connecting, opens the channel, creates the peer session with its pump
  and sends the offer on the channel;
* a closed link gives up the sending end; a track binds the surface or adds to it; a local
  candidate goes out on the channel.

A handler whose transport fails halfway leaves a trail that is not live (the offer not sent yet,
or the surface bound to a playlist no engine feeds), and releases it at once: those states are
`releasable`, and `failSetup_ledger` completes them.
-/

namespace LiveViewer

section Fresh

variable {W : Type} {c : Collaborators W} {delivered : List SessionEvent}

/-- A session that has done nothing holds nothing. -/
theorem Live.nil_fresh {s : ActiveSession} (h : Live c delivered s []) :
    s.signaling = none ∧ s.peer = none ∧ s.playback = none ∧ s.boundStream = none := by
  have hbound : s.sourceSet = false := h.bound.1 rfl
  have hpeer : s.peer = none := by
    have := h.peer
    cases hp : s.peer <;> simp_all
  have hsig : s.signaling = none := by
    obtain ⟨frames, hl, -⟩ := h.link
    unfold ActiveSession.linkOps at hl
    split at hl
    · simp at hl
    · assumption
  simp only [ActiveSession.sourceSet, Bool.or_eq_false_iff, Option.isSome_eq_false_iff,
    Option.isNone_iff_eq_none] at hbound
  exact ⟨hsig, hpeer, hbound.2, hbound.1⟩

/-- The first ops of a session that had done nothing. -/
theorem Ledger.append_fresh {ops : List Op} {s s' : ActiveSession}
    (h : Ledger c delivered ops (some s)) (hlast : ops.getLast? = some .begin) (δ : List Op)
    (hδ : δ.filterMap Op.channelLink = []) (hgen : s'.generation = s.generation)
    (hlive : Live c delivered s [] → Live c delivered s' δ) :
    Ledger c delivered (ops ++ δ) (some s') where
  settled := (h.settled.last_begin (fun _ _ hl => hl.no_begin) hlast).append δ hgen
    fun body ⟨hl, hb⟩ => by
      subst hb
      exact hlive hl
  links := by
    rw [List.filterMap_append, hδ, List.append_nil]
    exact h.links

/-- The first ops of a session that had done nothing, when they only leave a trail. -/
theorem Releasable.append_fresh {ops : List Op} {s s' : ActiveSession}
    (h : Ledger c delivered ops (some s)) (hlast : ops.getLast? = some .begin) (δ : List Op)
    (hδ : δ.filterMap Op.channelLink = []) (hgen : s'.generation = s.generation)
    (htrail : Live c delivered s [] → Trail c delivered s' δ) :
    Releasable c delivered (ops ++ δ) (some s') where
  settled := (h.settled.last_begin (fun _ _ hl => hl.no_begin) hlast).append δ hgen
    fun body ⟨hl, hb⟩ => by
      subst hb
      exact htrail hl
  links := by
    rw [List.filterMap_append, hδ, List.append_nil]
    exact h.links

/-- The opener of a peer-to-peer session that had done nothing. -/
theorem Live.opening {s : ActiveSession} (h : Live c delivered s []) (s' : ActiveSession)
    (he : s'.resources = s.resources) (ht : s.request.transport = .peerToPeer) :
    Live c delivered s' [.opener s.generation] := by
  obtain ⟨hsig, hpeer, hplay, hbound⟩ := h.nil_fresh
  simp only [ActiveSession.resources, Prod.mk.injEq] at he
  obtain ⟨hb', hp', hpeer', hsig', hreq', hgen'⟩ := he
  exact {
    no_begin := by simp
    surface := .inl rfl
    peer := by simp [hpeer', hpeer]
    engine := by simp [ActiveSession.engine, hp', hplay]
    link := ⟨[], by simp [ActiveSession.linkOps, hsig', hsig], .inl rfl⟩
    validated := hreq' ▸ h.validated
    generations := by simp [hgen']
    bound := by simp [ActiveSession.sourceSet, hb', hp', hbound, hplay]
    peerToPeer := fun _ => hp'.trans hplay
    channel_peerToPeer := by simp [hsig', hsig]
    peer_after_channel := fun _ => hpeer'.trans hpeer
    openers := by simp [List.filter_cons]
    opener_peerToPeer := fun _ => hreq' ▸ ht
    peerPump := by simp
    opened := by simp [hsig', hsig]
    offered := by simp [hpeer', hpeer] }

/-- A segmented session that had done nothing, bound to its playlist and, unless the surface
plays it itself, fed by the engine its playback names. -/
theorem Live.segmented {s : ActiveSession} (h : Live c delivered s [])
    (ht : s.request.transport = .segmentedPull) (playback : Playback) (tasks : List Nat) :
    Live c delivered { s with playback := some playback, tasks }
      (.source :: ({ s with playback := some playback, tasks } : ActiveSession).engine.toList.map
        .engine) := by
  obtain ⟨hsig, hpeer, -, -⟩ := h.nil_fresh
  cases playback <;> exact {
    no_begin := by simp [ActiveSession.engine]
    surface := .inr ⟨0, by simp [ActiveSession.engine, List.filter_cons]⟩
    peer := by simp [ActiveSession.engine, hpeer]
    engine := by simp [ActiveSession.engine, List.filter_cons]
    link := ⟨[], by simp [ActiveSession.engine, ActiveSession.linkOps, hsig], .inl rfl⟩
    validated := h.validated
    generations := by simp [ActiveSession.engine]
    bound := by simp [ActiveSession.sourceSet, ActiveSession.engine, List.filter_cons]
    peerToPeer := by simp [ht]
    channel_peerToPeer := by simp [hsig]
    peer_after_channel := fun _ => hpeer
    openers := by simp [ActiveSession.engine]
    opener_peerToPeer := by simp [ActiveSession.engine]
    peerPump := by simp [ActiveSession.engine]
    opened := by simp [hsig]
    offered := by simp [hpeer] }

/-- A segmented session bound to a playlist that no engine came to feed: a trail to release. -/
theorem Trail.unfed {s : ActiveSession} (h : Live c delivered s []) :
    Trail c delivered s [.source] := by
  obtain ⟨hsig, hpeer, hplay, -⟩ := h.nil_fresh
  exact {
    no_begin := by simp
    surface := .inr ⟨0, rfl⟩
    peer := by simp [hpeer]
    engine := by simp [ActiveSession.engine, hplay]
    link := ⟨[], by simp [ActiveSession.linkOps, hsig], .inl rfl⟩
    validated := h.validated
    generations := by simp }

/-! ## What a live session does next -/

/-- Ops that start producers only in generation `g` keep every producer op in it. -/
theorem generations_append {body δ : List Op} {g₀ : Nat}
    (h : ∀ op ∈ body, ∀ g, op.generation = some g → g = g₀)
    (hδ : ∀ op ∈ δ, ∀ g, op.generation = some g → g = g₀) :
    ∀ op ∈ body ++ δ, ∀ g, op.generation = some g → g = g₀ := by
  intro op hop
  rcases List.mem_append.1 hop with hop | hop
  · exact h op hop
  · exact hδ op hop

/-- The offer a live session sent stays in its life as it goes on. -/
theorem Live.offered_append {s : ActiveSession} {body : List Op} (h : Live c delivered s body)
    (δ : List Op) : s.peer.isSome → ∃ link text, Op.frame link text ∈ body ++ δ := fun hp => by
  obtain ⟨l, t, ht⟩ := h.offered hp
  exact ⟨l, t, List.mem_append_left _ ht⟩

/-- What a session without a peer session sent on its link: nothing. -/
theorem ActiveSession.Sends.eq_nil {s : ActiveSession} {body : List Op} {frames : List String}
    (h : s.Sends c delivered body frames) (hpeer : s.peer = none) : frames = [] := by
  rcases h with h | ⟨peer, -, -, hp, -⟩
  · exact h
  · simp [hpeer] at hp

/-- A peer-to-peer session without a channel opens one on `link`. -/
theorem Live.channel {s : ActiveSession} {body : List Op} (h : Live c delivered s body)
    (hsig : s.signaling = none) (ht : s.request.transport = .peerToPeer)
    (hopened : 0 < Machine.openedIn delivered s.generation) (url : Url) (link : Nat)
    (tasks : List Nat) :
    Live c delivered { s with signaling := some (link, { url }), tasks }
      (body ++ [.channel link]) := by
  obtain ⟨frames, hl, hsends⟩ := h.link
  have hlink : body.filter Op.isLink = [] := by simpa [ActiveSession.linkOps, hsig] using hl
  have hpeer : s.peer = none := h.peer_after_channel hsig
  exact {
    no_begin := by simpa using h.no_begin
    surface := by simpa using h.surface
    peer := by simpa using h.peer
    engine := by simpa [ActiveSession.engine] using h.engine
    link := ⟨[], by simp [hlink, ActiveSession.linkOps], .inl rfl⟩
    validated := h.validated
    generations := generations_append h.generations (by simp)
    bound := by simpa [ActiveSession.sourceSet] using h.bound
    peerToPeer := h.peerToPeer
    channel_peerToPeer := fun _ => ht
    peer_after_channel := by simp
    openers := by simpa using h.openers
    opener_peerToPeer := by simpa using h.opener_peerToPeer
    peerPump := by simpa using h.peerPump
    opened := fun _ => hopened
    offered := by simp [hpeer] }

/-- A session with a channel and no peer session creates one, `peer`, and starts its pump. -/
theorem Trail.peered {s : ActiveSession} {body : List Op} (h : Trail c delivered s body)
    (hpeer : s.peer = none) (peer : Nat) (tasks : List Nat) :
    Trail c delivered { s with peer := some peer, tasks }
      (body ++ [.peer peer, .peerPump s.generation]) := by
  obtain ⟨frames, hl, hsends⟩ := h.link
  have hframes : frames = [] := hsends.eq_nil hpeer
  subst hframes
  exact {
    no_begin := by simpa using h.no_begin
    surface := by simpa [List.filter_cons] using h.surface
    peer := by simpa [List.filter_cons, hpeer] using h.peer
    engine := by simpa [List.filter_cons, ActiveSession.engine] using h.engine
    link := ⟨[], by simpa [List.filter_cons, ActiveSession.linkOps] using hl, .inl rfl⟩
    validated := h.validated
    generations := generations_append h.generations (by simp) }

/-- A session with an open channel and no peer session creates one, `peer`, starts its pump and
sends its offer for the session's stream key, with the SDP the peer session answered. -/
theorem Live.negotiated {s : ActiveSession} {body : List Op} (h : Live c delivered s body)
    {link : Nat} {channel : SignalingChannel} (hsig : s.signaling = some (link, channel))
    (hh : channel.holding = true) (hpeer : s.peer = none) (peer : Nat) (tasks : List Nat)
    {sdp : String} (hoffer : ∃ w, (c.createOffer peer w).1 = .ok sdp) :
    Live c delivered { s with peer := some peer, tasks }
      (body ++ [.peer peer, .peerPump s.generation, .offer peer sdp,
        .frame link (SignalMessage.offer s.request.streamKey sdp).encode]) := by
  obtain ⟨frames, hl, hsends⟩ := h.link
  have hframes : frames = [] := hsends.eq_nil hpeer
  subst hframes
  have hlink : body.filter Op.isLink = [.channel link] := by
    simpa [ActiveSession.linkOps, hsig, hh] using hl
  exact {
    no_begin := by simpa using h.no_begin
    surface := by simpa [List.filter_cons] using h.surface
    peer := by simpa [List.filter_cons, hpeer] using h.peer
    engine := by simpa [List.filter_cons, ActiveSession.engine] using h.engine
    link := by
      refine ⟨[(SignalMessage.offer s.request.streamKey sdp).encode], ?_,
        .inr ⟨peer, sdp, [], rfl, rfl, by simp, hoffer, List.nil_sublist _⟩⟩
      simp [List.filter_cons, hlink, ActiveSession.linkOps, hsig, hh]
    validated := h.validated
    generations := generations_append h.generations (by simp)
    bound := by simpa [List.filter_cons, ActiveSession.sourceSet] using h.bound
    peerToPeer := h.peerToPeer
    channel_peerToPeer := fun _ => h.channel_peerToPeer (by simp [hsig])
    peer_after_channel := by simp [hsig]
    openers := by simpa [List.filter_cons] using h.openers
    opener_peerToPeer := by simpa [List.filter_cons] using h.opener_peerToPeer
    peerPump := by simp
    opened := fun _ => h.opened (by simp [hsig])
    offered := fun _ => ⟨link, (SignalMessage.offer s.request.streamKey sdp).encode, by simp⟩ }

/-- A signaling open of the live session's generation opens its channel on the link it
brought. -/
theorem Ledger.openChannel {ops : List Op} {s : ActiveSession}
    (h : Ledger c delivered ops (some s)) (hsig : s.signaling = none)
    (ht : s.request.transport = .peerToPeer) (url : Url) (link : Nat) (tasks : List Nat) :
    Ledger c (delivered ++ [⟨s.generation, .signalingOpened url (.ok link)⟩])
      (ops ++ [.channel link]) (some { s with signaling := some (link, { url }), tasks }) where
  settled := by
    refine (h.append_delivered _).settled.append _ rfl fun body hl => hl.channel hsig ht ?_ url link
      tasks
    simp [Machine.openedIn, List.filter_append, EventKind.isOpened]
  links := by
    rw [List.filterMap_append, reportedLinks_append]
    exact h.links.append (by simp [reportedLinks, EventKind.openedLink])

/-- A session whose channel still holds the sending end gives it up. -/
theorem Live.closeChannel {s : ActiveSession} {body : List Op} (h : Live c delivered s body)
    {link : Nat} {channel : SignalingChannel} (hsig : s.signaling = some (link, channel))
    (hh : channel.holding = true) :
    Live c delivered { s with signaling := some (link, channel.markClosed) }
      (body ++ [.closeChannel link]) := by
  obtain ⟨frames, hl, hsends⟩ := h.link
  exact {
    no_begin := by simpa using h.no_begin
    surface := by simpa using h.surface
    peer := by simpa using h.peer
    engine := by simpa [ActiveSession.engine] using h.engine
    link := by
      refine ⟨frames, ?_, hsends.append_body _⟩
      have hl' : body.filter Op.isLink = .channel link :: frames.map (.frame link) := by
        simpa [ActiveSession.linkOps, hsig, hh] using hl
      simp [List.filter_cons, hl', ActiveSession.linkOps, SignalingChannel.markClosed]
    validated := h.validated
    generations := generations_append h.generations (by simp)
    bound := by simpa [ActiveSession.sourceSet] using h.bound
    peerToPeer := h.peerToPeer
    channel_peerToPeer := fun _ => h.channel_peerToPeer (by simp [hsig])
    peer_after_channel := by simp
    openers := by simpa using h.openers
    opener_peerToPeer := by simpa using h.opener_peerToPeer
    peerPump := by simpa using h.peerPump
    opened := fun _ => h.opened (by simp [hsig])
    offered := h.offered_append _ }

/-- The first track of a peer-to-peer session binds its stream to the surface. -/
theorem Live.bindStream {s : ActiveSession} {body : List Op} (h : Live c delivered s body)
    (hbound : s.boundStream = none) (ht : s.request.transport = .peerToPeer) (stream : String) :
    Live c delivered { s with boundStream := some stream } (body ++ [.source]) := by
  have hplay : s.playback = none := h.peerToPeer ht
  have hsurface : body.filter Op.isSurface = [] :=
    h.bound.2 (by simp [ActiveSession.sourceSet, hbound, hplay])
  obtain ⟨frames, hl, hsends⟩ := h.link
  exact {
    no_begin := by simpa using h.no_begin
    surface := .inr ⟨0, by simp [hsurface]⟩
    peer := by simpa using h.peer
    engine := by simpa [ActiveSession.engine] using h.engine
    link := ⟨frames, by simpa [ActiveSession.linkOps] using hl, hsends.append_body _⟩
    validated := h.validated
    generations := generations_append h.generations (by simp)
    bound := by simp [ActiveSession.sourceSet]
    peerToPeer := h.peerToPeer
    channel_peerToPeer := h.channel_peerToPeer
    peer_after_channel := h.peer_after_channel
    openers := by simpa using h.openers
    opener_peerToPeer := by simpa using h.opener_peerToPeer
    peerPump := by simpa using h.peerPump
    opened := h.opened
    offered := h.offered_append _ }

/-- A later track of the bound stream is added to the surface. -/
theorem Live.addTrack {s : ActiveSession} {body : List Op} (h : Live c delivered s body)
    {stream : String} (hbound : s.boundStream = some stream) :
    Live c delivered s (body ++ [.track]) := by
  have hsurface : body.filter Op.isSurface ≠ [] := fun he =>
    absurd (h.bound.1 he) (by simp [ActiveSession.sourceSet, hbound])
  obtain ⟨frames, hl, hsends⟩ := h.link
  exact {
    no_begin := by simpa using h.no_begin
    surface := by
      rcases h.surface with he | ⟨n, hn⟩
      · exact absurd he hsurface
      · exact .inr ⟨n + 1, by simp [hn, List.replicate_succ']⟩
    peer := by simpa using h.peer
    engine := by simpa using h.engine
    link := ⟨frames, by simpa using hl, hsends.append_body _⟩
    validated := h.validated
    generations := generations_append h.generations (by simp)
    bound := by
      have hset : s.sourceSet = true := by simp [ActiveSession.sourceSet, hbound]
      simp [List.filter_cons, hset]
    peerToPeer := h.peerToPeer
    channel_peerToPeer := h.channel_peerToPeer
    peer_after_channel := h.peer_after_channel
    openers := by simpa using h.openers
    opener_peerToPeer := by simpa using h.opener_peerToPeer
    peerPump := by simpa using h.peerPump
    opened := h.opened
    offered := h.offered_append _ }

/-- A local candidate of the session's peer session, delivered in its generation, goes out on
its channel after the offer. -/
theorem Live.candidate {s : ActiveSession} {body : List Op} (h : Live c delivered s body)
    {link : Nat} {channel : SignalingChannel} (hsig : s.signaling = some (link, channel))
    (hh : channel.holding = true) (hpeer : s.peer.isSome) (candidate : String)
    (sdpMid : Option String) (sdpMLineIndex : Option UInt16) :
    Live c (delivered ++ [⟨s.generation, .peer (.localCandidate candidate sdpMid sdpMLineIndex)⟩])
      s (body ++ [.frame link (SignalMessage.iceCandidate candidate sdpMid sdpMLineIndex).encode]) := by
  let e : SessionEvent := ⟨s.generation, .peer (.localCandidate candidate sdpMid sdpMLineIndex)⟩
  have h' := h.append_delivered [e]
  obtain ⟨frames, hl, hsends⟩ := h.link
  have hl' : body.filter Op.isLink = .channel link :: frames.map (.frame link) := by
    simpa [ActiveSession.linkOps, hsig, hh] using hl
  -- The offer went out when the peer session was created: the frames so far are not empty.
  have hoffered : frames ≠ [] := by
    obtain ⟨l, t, ht⟩ := h.offered hpeer
    intro hnil
    have hmem : Op.frame l t ∈ body.filter Op.isLink := List.mem_filter.2 ⟨ht, rfl⟩
    simp [hl', hnil] at hmem
  obtain ⟨peer, sdp, candidates, hp, hf, hb, ho, hc⟩ := hsends.resolve_left hoffered
  have hsent : (candidates ++ [(SignalMessage.iceCandidate candidate sdpMid sdpMLineIndex).encode]
      ).Sublist (candidateFrames (delivered ++ [e]) s.generation) := by
    rw [candidateFrames_append]
    exact hc.append (by simp [candidateFrames, e])
  exact {
    no_begin := by simpa using h.no_begin
    surface := by simpa using h.surface
    peer := by simpa using h.peer
    engine := by simpa using h.engine
    link := ⟨frames ++ [(SignalMessage.iceCandidate candidate sdpMid sdpMLineIndex).encode],
      by simp [List.filter_cons, hl', ActiveSession.linkOps, hsig, hh],
      .inr ⟨peer, sdp, _, hp, by simp [hf], List.mem_append_left _ hb, ho, hsent⟩⟩
    validated := h.validated
    generations := generations_append h.generations (by simp)
    bound := by simpa using h.bound
    peerToPeer := h.peerToPeer
    channel_peerToPeer := h.channel_peerToPeer
    peer_after_channel := h.peer_after_channel
    openers := by simpa using h.openers
    opener_peerToPeer := by simpa using h.opener_peerToPeer
    peerPump := by simpa using h.peerPump
    opened := h'.opened
    offered := h.offered_append _ }

end Fresh

namespace Machine

open Collaborators

variable {W : Type} {c : Collaborators W} {delivered : List SessionEvent}

/-- A step that writes `before`, then the teardown of `m`'s controller, then `after`, and leaves
no live session completes the live session's life: what it writes besides are no ops. -/
theorem ledger_of_teardown {m m' : Machine (W × List Call)} (h : m.releasable c delivered)
    (before after : List Call) (hb : Call.ops before = []) (ha : Call.ops after = [])
    (hw : m'.world.2 = m.world.2 ++ (before ++ (teardownCalls m.ctl ++ after)))
    (hs : m'.ctl.session = none) : m'.ledger c delivered := by
  unfold Machine.ledger
  rw [hw, hs, Call.ops_append, Call.ops_append, Call.ops_append, hb, ha, teardownCalls_ops,
    List.nil_append, List.append_nil]
  exact Releasable.teardown h

/-- A step from a session that had done nothing, writing `calls` and leaving session `s'`. -/
theorem ledger_of_fresh {m m' : Machine (W × List Call)} {s : ActiveSession}
    (h : m.ledger c delivered) (hs : m.ctl.session = some s)
    (hlast : (Call.ops m.world.2).getLast? = some .begin) (calls : List Call) (s' : ActiveSession)
    (hw : m'.world.2 = m.world.2 ++ calls) (hs' : m'.ctl.session = some s')
    (hδ : (Call.ops calls).filterMap Op.channelLink = []) (hgen : s'.generation = s.generation)
    (hlive : Live c delivered s [] → Live c delivered s' (Call.ops calls)) :
    m'.ledger c delivered := by
  unfold Machine.ledger at h ⊢
  rw [hs] at h
  rw [hw, hs', Call.ops_append]
  exact h.append_fresh hlast _ hδ hgen hlive

/-- The same, when the step leaves only a trail to release. -/
theorem releasable_of_fresh {m m' : Machine (W × List Call)} {s : ActiveSession}
    (h : m.ledger c delivered) (hs : m.ctl.session = some s)
    (hlast : (Call.ops m.world.2).getLast? = some .begin) (calls : List Call) (s' : ActiveSession)
    (hw : m'.world.2 = m.world.2 ++ calls) (hs' : m'.ctl.session = some s')
    (hδ : (Call.ops calls).filterMap Op.channelLink = []) (hgen : s'.generation = s.generation)
    (htrail : Live c delivered s [] → Trail c delivered s' (Call.ops calls)) :
    m'.releasable c delivered := by
  unfold Machine.ledger at h
  unfold Machine.releasable
  rw [hs] at h
  rw [hw, hs', Call.ops_append]
  exact Releasable.append_fresh h hlast _ hδ hgen htrail

/-- A live session lives its trail. -/
theorem ledger.live {m : Machine (W × List Call)} {s : ActiveSession} (h : m.ledger c delivered)
    (hs : m.ctl.session = some s) : ∃ body, Live c delivered s body := by
  unfold Machine.ledger at h
  rw [hs] at h
  obtain ⟨lives, rest, -, -, body, -, hlive, -⟩ := h.settled
  exact ⟨body, hlive⟩

/-- A step that opens the live session's channel on the link a signaling open of its generation
brought. -/
theorem ledger_openChannel {m m' : Machine (W × List Call)} {s : ActiveSession} {g : Nat}
    (h : m.ledger c delivered) (hs : m.ctl.session = some s) (hg : s.generation = g)
    (hsig : s.signaling = none) (ht : s.request.transport = .peerToPeer) (url : Url) (link : Nat)
    (tasks : List Nat) (calls : List Call) (hw : m'.world.2 = m.world.2 ++ calls)
    (hops : Call.ops calls = [.channel link])
    (hs' : m'.ctl.session = some { s with signaling := some (link, { url }), tasks }) :
    m'.ledger c (delivered ++ [⟨g, .signalingOpened url (.ok link)⟩]) := by
  subst hg
  unfold Machine.ledger at h ⊢
  rw [hs] at h
  rw [hw, hs', Call.ops_append, hops]
  exact h.openChannel hsig ht url link tasks

/-- A step that sends a local candidate of the live session's generation on its channel. -/
theorem ledger_candidate {m m' : Machine (W × List Call)} {s : ActiveSession} {g : Nat}
    (h : m.ledger c delivered) (hs : m.ctl.session = some s) (hg : s.generation = g)
    {link : Nat} {channel : SignalingChannel} (hsig : s.signaling = some (link, channel))
    (hh : channel.holding = true) (hpeer : s.peer.isSome) (candidate : String)
    (sdpMid : Option String) (sdpMLineIndex : Option UInt16)
    (hw : m'.world.2 = m.world.2 ++
      [.sendFrame link (SignalMessage.iceCandidate candidate sdpMid sdpMLineIndex).encode])
    (hs' : m'.ctl.session = some s) :
    m'.ledger c (delivered ++ [⟨g, .peer (.localCandidate candidate sdpMid sdpMLineIndex)⟩]) := by
  subst hg
  unfold Machine.ledger at h ⊢
  rw [hs] at h
  rw [hw, hs', Call.ops_append]
  exact {
    settled := (h.settled.mono (fun _ _ hq => hq.append_delivered _) fun _ _ => id).append _ rfl
      fun body hlive => by simpa using hlive.candidate hsig hh hpeer candidate sdpMid sdpMLineIndex
    links := by
      have hnil : reportedLinks
          [⟨s.generation, .peer (.localCandidate candidate sdpMid sdpMLineIndex)⟩] = [] := rfl
      have hframe : (Call.ops [.sendFrame link
          (SignalMessage.iceCandidate candidate sdpMid sdpMLineIndex).encode]).filterMap
            Op.channelLink = [] := rfl
      rw [List.filterMap_append, reportedLinks_append, hnil, hframe, List.append_nil,
        List.append_nil]
      exact h.links }

/-- Every producer op of the journal was started in the current generation or an older one. -/
def Dated (m : Machine (W × List Call)) : Prop :=
  ∀ op ∈ Call.ops m.world.2, ∀ g, op.generation = some g → g ≤ m.ctl.generation

theorem Quiet.dated {m m' : Machine (W × List Call)} (hq : Quiet m m')
    (hg : m'.ctl.generation = m.ctl.generation) (hd : m.Dated) : m'.Dated := by
  unfold Dated
  rw [hq.ops_eq, hg]
  exact hd

/-- A state whose ledger holds serves an outcome whether it succeeded or not. -/
theorem ledger.outcome {m : Machine (W × List Call)} {P : Prop}
    (h : m.ledger c delivered) : (P → m.ledger c delivered) ∧ m.releasable c delivered :=
  ⟨fun _ => h, h.releasable⟩

/-- A step that writes `calls` and takes the live session `s` to `s'`, opening no channel. -/
theorem ledger_of_append {m m' : Machine (W × List Call)} {s : ActiveSession}
    (h : m.ledger c delivered) (hs : m.ctl.session = some s) (calls : List Call)
    (s' : ActiveSession) (hw : m'.world.2 = m.world.2 ++ calls)
    (hs' : m'.ctl.session = some s') (hδ : (Call.ops calls).filterMap Op.channelLink = [])
    (hgen : s'.generation = s.generation)
    (hlive : ∀ body, Live c delivered s body → Live c delivered s' (body ++ Call.ops calls)) :
    m'.ledger c delivered := by
  unfold Machine.ledger at h ⊢
  rw [hs] at h
  rw [hw, hs', Call.ops_append]
  exact h.append _ hδ hgen hlive

/-- The same, for a trail to release. -/
theorem releasable_of_append {m m' : Machine (W × List Call)} {s : ActiveSession}
    (h : m.releasable c delivered) (hs : m.ctl.session = some s) (calls : List Call)
    (s' : ActiveSession) (hw : m'.world.2 = m.world.2 ++ calls)
    (hs' : m'.ctl.session = some s') (hδ : (Call.ops calls).filterMap Op.channelLink = [])
    (hgen : s'.generation = s.generation)
    (htrail : ∀ body, Trail c delivered s body → Trail c delivered s' (body ++ Call.ops calls)) :
    m'.releasable c delivered := by
  unfold Machine.releasable at h ⊢
  rw [hs] at h
  rw [hw, hs', Call.ops_append]
  exact h.append _ hδ hgen htrail

end Machine

namespace Act

open Machine Collaborators

variable {W : Type} (c : Collaborators W) {delivered : List SessionEvent}
  {m : Machine (W × List Call)}

/-! ## Teardowns -/

theorem endSession_ledger (h : m.releasable c delivered) :
    ((endSession c.journaled).run m).2.ledger c delivered :=
  ledger_of_teardown h [] [.showOverlay (some disconnectedOverlay)] rfl
    (by simp [disconnectedOverlay, connectingOverlay])
    (by rw [endSession_world]; simp [journaled_teardown]) (by rw [endSession_ctl]; simp)

theorem failSetup_ledger (e : ViewerError) (h : m.releasable c delivered) :
    ((failSetup c.journaled e).run m).2.ledger c delivered :=
  ledger_of_teardown h [.record ⟨.error, e.message⟩] [.showOverlay (some disconnectedOverlay)]
    rfl (by simp [disconnectedOverlay, connectingOverlay])
    (by rw [failSetup_world]; simp [journaled_teardown]) (by rw [failSetup_ctl]; simp)

theorem disconnect_ledger (h : m.releasable c delivered) :
    ((disconnect c.journaled).run m).2.ledger c delivered := by
  refine ledger_of_teardown h [] ?_ rfl ?_ ?_ (by rw [disconnect_ctl]; simp)
  -- A live session's end is also shown and logged.
  · exact if m.ctl.session.isSome then
      [.showOverlay (some disconnectedOverlay), .record ⟨.info, "Disconnected"⟩] else []
  · split <;> simp [disconnectedOverlay, connectingOverlay]
  · rw [disconnect_world]
    cases hs : m.ctl.session <;> simp [journaled_teardown]

theorem stop_ledger (h : m.releasable c delivered) :
    ((stop c.journaled).run m).2.ledger c delivered := by
  have hd := disconnect_ledger c h
  unfold Machine.ledger at hd ⊢
  simpa [stop] using hd

theorem transportFailure_ledger (state : PeerState) (h : m.ledger c delivered) :
    ((transportFailure c.journaled state).run m).2.ledger c delivered := by
  unfold transportFailure
  simp only [StateT.run_bind, current_run, id_bind, pure_fst, pure_snd]
  have hend := endSession_ledger c ((log_quiet c .error
    (ViewerError.transport ("peer connection " ++ state.label)).message (Quiet.refl m)).releasable
      h.releasable)
  split
  · simp only [StateT.run_bind, current_run, id_bind, pure_fst, pure_snd]
    exact (scheduleReconnect_quiet c _ _ (log_quiet c _ _ (Quiet.refl _))).ledger hend
  · exact hend

/-! ## Starting a session -/

/-- Binding a playlist writes the binding, and the engine's start when there is no native
player: its ops are the binding and the engine it answers, or, when it fails, none or the
binding alone. -/
theorem attachSegmented_ops (manifest : Url) (m : Machine (W × List Call)) :
    ∃ calls, ((attachSegmented c.journaled manifest).run m).2.world.2 = m.world.2 ++ calls ∧
      match ((attachSegmented c.journaled manifest).run m).1 with
      | .ok .native => Call.ops calls = [.source]
      | .ok (.engine e) => Call.ops calls = [.source, .engine e]
      | .error _ => Call.ops calls = [] ∨ Call.ops calls = [.source] := by
  unfold attachSegmented
  simp only [StateT.run_bind, id_bind, journaled_startEngine]
  split
  · exact ⟨[.setSource (.manifest manifest)], by simp, by simp⟩
  · cases c.startEngine with
    | none => exact ⟨[], by simp, by simp⟩
    | some start =>
      simp only [Option.map_some, StateT.run_bind, id_bind]
      split
      · rename_i e he
        simp only [ask_run, touch_run, StateT.run_get, pure_fst, pure_snd,
          journaled_setSource] at he
        exact ⟨[.setSource (.segmentFeed manifest), .startEngine manifest (.ok e)],
          by simp [he], by simp⟩
      · rename_i err he
        simp only [ask_run, touch_run, StateT.run_get, pure_fst, pure_snd,
          journaled_setSource] at he
        exact ⟨[.setSource (.segmentFeed manifest), .startEngine manifest (.error err)],
          by simp [he], by simp⟩

theorem openSignaling_ledger (request : ConnectRequest) {s : ActiveSession}
    (h : m.ledger c delivered) (hs : m.ctl.session = some s)
    (hlast : (Call.ops m.world.2).getLast? = some .begin)
    (ht : s.request.transport = .peerToPeer) (hgen : s.generation = m.ctl.generation) :
    ((openSignaling c.journaled request).run m).2.ledger c delivered := by
  unfold openSignaling
  split
  · exact failSetup_ledger c _ h.releasable
  · rename_i url _
    simp only [StateT.run_bind, id_bind, spawn_run, updateSession_run, pure_snd]
    -- The opener is the session's first op; the session only records its task.
    let task := (c.spawn m.ctl.generation (.opener url) m.world.1).1
    refine ledger_of_fresh h hs hlast [.spawn m.ctl.generation (.opener url) task]
      { s with tasks := s.tasks ++ [task] } (by simp [task]) (by simp [hs, task]) (by simp) rfl ?_
    intro hlive
    rw [← hgen]
    exact hlive.opening _ rfl ht

theorem startSegmented_ledger (request : ConnectRequest) {s : ActiveSession}
    (h : m.ledger c delivered) (hs : m.ctl.session = some s)
    (hlast : (Call.ops m.world.2).getLast? = some .begin)
    (ht : s.request.transport = .segmentedPull) :
    ((startSegmented c.journaled request).run m).2.ledger c delivered := by
  unfold startSegmented
  cases manifestUrl request.serverEndpoint request.streamKey with
  | error e => exact failSetup_ledger c _ h.releasable
  | ok manifest =>
    simp only [StateT.run_bind, id_bind]
    obtain ⟨calls, hw, hops⟩ := attachSegmented_ops c manifest m
    have hctl := attachSegmented_ctl c.journaled manifest m
    split
    · -- The binding failed: the session is released, with the playlist bound if it was.
      rename_i err hp
      rw [hp] at hops
      refine failSetup_ledger c _ ?_
      rcases hops with hnil | hsource
      · exact Quiet.releasable ⟨⟨calls, hw, hnil⟩, by rw [hctl]⟩ h.releasable
      · exact releasable_of_fresh h hs hlast calls s hw (by rw [hctl]; exact hs)
          (by simp [hsource]) rfl fun hlive => hsource ▸ Trail.unfed hlive
    · -- Bound natively or through an engine: the session records how it plays.
      rename_i playback hp
      rw [hp] at hops
      simp only [StateT.run_bind, id_bind, spawn_run, updateSession_run, pure_snd, hctl]
      -- The engine's pump is no op; the session records how it plays and the pump's task.
      cases playback with
      | native =>
        simp only [beq_self_eq_true, if_true]
        refine (markConnected_quiet c (Quiet.refl _)).ledger ?_
        refine ledger_of_fresh h hs hlast (calls ++ [.spawn m.ctl.generation (.enginePump none)
          (c.spawn m.ctl.generation (.enginePump none)
            ((attachSegmented c.journaled manifest).run m).2.world.1).1])
          { s with playback := some .native, tasks := s.tasks ++ [(c.spawn m.ctl.generation
            (.enginePump none) ((attachSegmented c.journaled manifest).run m).2.world.1).1] }
          (by simp [hw]) (by simp [hs]) (by simp [hops]) rfl ?_
        intro hlive
        simpa [hops, ActiveSession.engine] using hlive.segmented ht .native _
      | engine e =>
        simp only [reduceCtorEq, beq_iff_eq, if_false]
        refine ledger_of_fresh h hs hlast (calls ++ [.spawn m.ctl.generation (.enginePump (some e))
          (c.spawn m.ctl.generation (.enginePump (some e))
            ((attachSegmented c.journaled manifest).run m).2.world.1).1])
          { s with playback := some (.engine e), tasks := s.tasks ++ [(c.spawn m.ctl.generation
            (.enginePump (some e)) ((attachSegmented c.journaled manifest).run m).2.world.1).1] }
          (by simp [hw]) (by simp [hs]) (by simp [hops]) rfl ?_
        intro hlive
        simpa [hops, ActiveSession.engine] using hlive.segmented ht (.engine e) _

/-! ## Signaling -/

/-- A message goes out on the live session's channel while it holds the sending end. -/
theorem sendSignal_run {W : Type} (c : Collaborators W) (msg : SignalMessage) {m : Machine W}
    (link : Nat) {channel : SignalingChannel}
    (hsig : m.ctl.session.bind (·.signaling) = some (link, channel))
    (hh : channel.holding = true) :
    (sendSignal c msg).run m = pure ((), { m with world := c.sendFrame link msg.encode m.world }) := by
  simp [sendSignal, hsig, hh]

/-- Otherwise nothing happens. -/
theorem sendSignal_run_of_closed {W : Type} (c : Collaborators W) (msg : SignalMessage)
    {m : Machine W}
    (h : ∀ link channel, m.ctl.session.bind (·.signaling) = some (link, channel) →
      channel.holding = false) :
    (sendSignal c msg).run m = pure ((), m) := by
  unfold sendSignal
  cases hsig : m.ctl.session.bind (·.signaling) with
  | none => simp [hsig]
  | some pair =>
    obtain ⟨link, channel⟩ := pair
    simp [hsig, h link channel hsig]

theorem startNegotiation_outcome {s : ActiveSession} {link : Nat} {channel : SignalingChannel}
    (h : m.ledger c delivered) (hs : m.ctl.session = some s)
    (hsig : s.signaling = some (link, channel)) (hh : channel.holding = true)
    (hpeer : s.peer = none) (hgen : s.generation = m.ctl.generation) :
    (((startNegotiation c.journaled).run m).1 = .ok () →
      ((startNegotiation c.journaled).run m).2.ledger c delivered) ∧
      ((startNegotiation c.journaled).run m).2.releasable c delivered := by
  unfold startNegotiation
  simp only [StateT.run_bind, current_run, id_bind, pure_fst, pure_snd]
  split
  · -- No peer session: only the question was asked.
    rename_i err herr
    simp only [ask_run, pure_fst, journaled_createPeer] at herr
    simp only [StateT.run_pure, pure_fst, pure_snd]
    refine ⟨by simp, Quiet.releasable ?_ h.releasable⟩
    exact (Quiet.refl m).extend [.createPeer m.ctl.config.iceServers (.error err)] (by simp [herr])
      rfl rfl
  · rename_i peer hpeerok
    simp only [ask_run, pure_fst, journaled_createPeer] at hpeerok
    simp only [StateT.run_bind, current_run, id_bind, pure_fst, pure_snd, spawn_run, ask_run, hs]
    -- The peer session is created and its pump started, in the session's generation.
    let task := (c.spawn m.ctl.generation (.peerPump peer)
      (c.createPeer m.ctl.config.iceServers m.world.1).2).1
    let s' : ActiveSession := { s with peer := some peer, tasks := s.tasks ++ [task] }
    -- the offer is journaled with its answer
    let calls : Except TransportError String → List Call := fun answer =>
      [.createPeer m.ctl.config.iceServers (.ok peer), .spawn m.ctl.generation (.peerPump peer) task,
        .createOffer peer answer]
    split
    · -- The offer failed: the peer session is there to release.
      rename_i err herr
      simp only [journaled_createOffer, journaled_spawn, journaled_createPeer, updateSession_run,
        pure_snd] at herr
      have hops : Call.ops (calls (.error err)) = [.peer peer, .peerPump s.generation] := by
        simp [calls, hgen]
      simp only [StateT.run_pure, pure_fst, pure_snd]
      refine ⟨by simp, releasable_of_append h.releasable hs (calls (.error err)) s' ?_ ?_
        (by simp [hops]) rfl fun body ht => ?_⟩
      · simp [calls, hpeerok, task, herr]
      · simp [hs, s', task]
      · rw [hops]
        exact ht.peered hpeer peer _
    · -- The offer goes out on the channel.
      rename_i sdp hsdp
      simp only [journaled_createOffer, journaled_spawn, journaled_createPeer, updateSession_run,
        pure_snd] at hsdp
      have hops : Call.ops (calls (.ok sdp)) =
          [.peer peer, .peerPump s.generation, .offer peer sdp] := by
        simp [calls, hgen]
      simp only [StateT.run_bind, id_bind]
      rw [sendSignal_run c.journaled _ link ?_ hh]
      · simp only [StateT.run_pure, pure_fst, pure_snd]
        refine ledger.outcome (ledger_of_append h hs (calls (.ok sdp) ++
          [.sendFrame link (SignalMessage.offer s.request.streamKey sdp).encode]) s' ?_ ?_ ?_ rfl ?_)
        · simp [calls, hpeerok, task, hsdp]
        · simp [hs, s', task]
        · simp [hops]
        · intro body hlive
          simpa [hops] using hlive.negotiated hsig hh hpeer peer _ ⟨_, hsdp⟩
      · simp [hs, hsig]

section Negotiation

variable {s : ActiveSession} {link : Nat} {channel : SignalingChannel}
  (h : m.ledger c delivered) (hs : m.ctl.session = some s)
  (hsig : s.signaling = some (link, channel)) (hh : channel.holding = true)
  (hpeer : s.peer = none) (hgen : s.generation = m.ctl.generation)
include h hs hsig hh hpeer hgen

/-- A negotiation that succeeded sent the offer. -/
theorem startNegotiation_ledger (hok : ((startNegotiation c.journaled).run m).1 = .ok ()) :
    ((startNegotiation c.journaled).run m).2.ledger c delivered :=
  (startNegotiation_outcome c h hs hsig hh hpeer hgen).1 hok

/-- A negotiation that failed leaves what it created to release. -/
theorem startNegotiation_releasable :
    ((startNegotiation c.journaled).run m).2.releasable c delivered :=
  (startNegotiation_outcome c h hs hsig hh hpeer hgen).2

end Negotiation

/-- A signaling open, while connecting, opens the session's channel on the link it brought,
creates the peer session and sends the offer; a failed open, or a failed negotiation, ends the
session; outside a connect the link is given up. -/
theorem onSignalingOpened_ledger (url : Url) (result : Except SignalingError Nat)
    (h : m.ledger c delivered) (hk : m.ctl.Consistent)
    (hfirst : ∀ s, m.ctl.session = some s →
      s.signaling = none ∧ s.request.transport = .peerToPeer) :
    ((onSignalingOpened c.journaled url result).run m).2.ledger c
      (delivered ++ [⟨m.ctl.generation, .signalingOpened url result⟩]) := by
  have h' : m.ledger c (delivered ++ [⟨m.ctl.generation, .signalingOpened url result⟩]) :=
    Ledger.append_delivered _ h
  unfold onSignalingOpened
  simp only [StateT.run_bind, current_run, id_bind, pure_fst, pure_snd]
  split
  · -- Outside a connect the link is given up, and that is no op.
    split
    · simp only [StateT.run_bind, id_bind, StateT.run_pure, pure_snd]
      exact (touch_quiet _ (by simp) (Quiet.refl m)).ledger h'
    · exact h'
  · rename_i hconn
    have hconn : m.ctl.status = .connecting := by simpa using hconn
    obtain ⟨s, hs⟩ := Option.isSome_iff_exists.1 (hk.session_iff.2 (.inl hconn))
    obtain ⟨hsig, ht⟩ := hfirst s hs
    obtain ⟨hgen, -⟩ := hk.session_current s hs
    split
    · simp only [StateT.run_bind, id_bind]
      exact endSession_ledger c ((log_quiet c _ _ (Quiet.refl m)).releasable h'.releasable)
    · rename_i link
      simp only [StateT.run_bind, current_run, id_bind, pure_fst, pure_snd, log_run, spawn_run,
        Controller.logged, hs, Option.isNone_some, Bool.false_eq_true, if_false, updateSession_run]
      -- The channel is open: the link's pump started and the session holds the link.
      have hpeer : s.peer = none := by
        obtain ⟨body, hlive⟩ := h.live hs
        exact hlive.peer_after_channel hsig
      let record : Call := .record ⟨.info, "Signaling connected to " ++ url.text⟩
      let pump := (c.spawn m.ctl.generation (.linkPump link) (c.record ⟨.info,
        "Signaling connected to " ++ url.text⟩ m.world.1)).1
      split
      · refine failSetup_ledger c _ (startNegotiation_releasable c ?_ rfl rfl rfl hpeer hgen)
        exact ledger_openChannel h hs hgen hsig ht url link (s.tasks ++ [pump])
          [record, .spawn m.ctl.generation (.linkPump link) pump] (by simp [record, pump])
          (by simp [record]) rfl
      · rename_i hok
        refine startNegotiation_ledger c ?_ rfl rfl rfl hpeer hgen hok
        exact ledger_openChannel h hs hgen hsig ht url link (s.tasks ++ [pump])
          [record, .spawn m.ctl.generation (.linkPump link) pump] (by simp [record, pump])
          (by simp [record]) rfl

theorem dispatchSignal_ledger (msg : SignalMessage) (h : m.ledger c delivered) :
    ((dispatchSignal c.journaled msg).run m).2.ledger c delivered := by
  unfold dispatchSignal
  cases msg with
  | answer sdp =>
    simp only [StateT.run_bind, current_run, id_bind, pure_fst, pure_snd]
    split
    · -- Applying the answer is no op; a failure to apply it during setup ends the session.
      rename_i peer _
      have hq := ask_quiet (c.journaled.applyAnswer peer sdp)
        (fun w => ⟨[.applyAnswer peer sdp], by simp, rfl⟩) (Quiet.refl m)
      simp only [StateT.run_bind, id_bind]
      split
      · exact hq.ledger h
      · simp only [StateT.run_bind, current_run, id_bind, pure_fst, pure_snd]
        split
        · exact failSetup_ledger c _ (hq.releasable h.releasable)
        · exact (log_quiet c _ _ hq).ledger h
    · exact h
  | iceCandidate candidate sdpMid sdpMLineIndex =>
    simp only [StateT.run_bind, current_run, id_bind, pure_fst, pure_snd]
    split
    · rename_i peer _
      have hq := ask_quiet (c.journaled.addCandidate peer
        (RemoteCandidate.ofSignal candidate sdpMid sdpMLineIndex))
        (fun w => ⟨[.addCandidate peer (RemoteCandidate.ofSignal candidate sdpMid sdpMLineIndex)],
          by simp, rfl⟩) (Quiet.refl m)
      simp only [StateT.run_bind, id_bind]
      split
      · exact hq.ledger h
      · exact (log_quiet c _ _ hq).ledger h
    · exact h
  | error message => exact (log_quiet c _ _ (Quiet.refl m)).ledger h
  | offer => exact (log_quiet c _ _ (Quiet.refl m)).ledger h

/-- A closed link gives up the sending end if the channel still holds it; a connecting or
connected session then ends. -/
theorem onSignalingClosed_ledger (h : m.ledger c delivered) :
    ((onSignalingClosed c.journaled).run m).2.ledger c delivered := by
  unfold onSignalingClosed
  simp only [StateT.run_bind, current_run, id_bind, pure_fst, pure_snd]
  split
  · rename_i link channel hsig
    obtain ⟨s, hs, hsig⟩ := Option.bind_eq_some_iff.1 hsig
    split
    · -- The sending end is given up, and the channel marked closed.
      rename_i hh
      have hl : Machine.ledger c delivered ((updateSession fun s =>
          { s with signaling := some (link, channel.markClosed) }).run
            ((touch (c.journaled.dropSender link)).run m).2).2 :=
        ledger_of_append h hs [.dropSender link]
          { s with signaling := some (link, channel.markClosed) } (by simp) (by simp [hs]) (by simp)
          rfl fun body hlive => by simpa using hlive.closeChannel hsig hh
      simp only [StateT.run_bind, current_run, id_bind, pure_fst, pure_snd]
      split
      · exact endSession_ledger c ((log_quiet c _ _ (Quiet.refl _)).releasable hl.releasable)
      · exact (log_quiet c _ _ (Quiet.refl _)).ledger hl
    · -- A channel that no longer holds the sending end is closed already.
      rename_i hh
      have hclosed : channel.markClosed = channel := by
        cases channel
        simp_all [SignalingChannel.markClosed]
      have hq : Quiet m ((updateSession fun s =>
          { s with signaling := some (link, channel.markClosed) }).run m).2 :=
        (Quiet.refl m).extend [] (by simp) rfl (by simp [hs, hclosed, ActiveSession.resources, hsig])
      simp only [StateT.run_bind, current_run, id_bind, pure_fst, pure_snd]
      split
      · exact endSession_ledger c ((log_quiet c _ _ hq).releasable h.releasable)
      · exact (log_quiet c _ _ hq).ledger h
  · simp only [StateT.run_bind, current_run, id_bind, pure_fst, pure_snd]
    split
    · exact endSession_ledger c ((log_quiet c _ _ (Quiet.refl m)).releasable h.releasable)
    · exact (log_quiet c _ _ (Quiet.refl m)).ledger h

theorem startTransport_ledger (request : ConnectRequest) {s : ActiveSession}
    (h : m.ledger c delivered) (hs : m.ctl.session = some s)
    (hlast : (Call.ops m.world.2).getLast? = some .begin) (hreq : s.request = request)
    (hgen : s.generation = m.ctl.generation) :
    ((startTransport c.journaled request).run m).2.ledger c delivered := by
  unfold startTransport
  split
  · rename_i ht
    exact openSignaling_ledger c request h hs hlast (hreq ▸ ht) hgen
  · rename_i ht
    exact startSegmented_ledger c request h hs hlast (hreq ▸ ht)

/-- A connect completes the life of the session it replaces and begins the next; every producer
op so far is of the current generation or older, so of an older one than the new session's. -/
theorem connect_ledger (request : ConnectRequest) (h : m.ledger c delivered) (hgen : m.Dated) :
    ((connect c.journaled request).run m).2.ledger c delivered := by
  cases hv : request.validated with
  | error field =>
    rw [connect_run_invalid _ hv]
    exact (log_quiet c .error (ViewerError.validation field).message (Quiet.refl m)).ledger h
  | ok valid =>
    by_cases hs : m.ctl.status = .connecting
    · rw [connect_run_busy _ hv hs]
      exact h
    · rw [connect_run_accepted _ hv hs]
      -- The state where the new session has begun: the old one released, the overlay shown.
      let fresh : ActiveSession := { generation := m.ctl.generation + 1, request := valid }
      have hsession : (m.ctl.begun valid).session = some fresh := by
        simp [Controller.begun, fresh]
      have hops : Call.ops (c.journaled.record ⟨.info, connectingMessage valid⟩
          (c.journaled.showOverlay (some connectingOverlay)
            ((releaseSession c.journaled).run ((cancelAll c.journaled).run m).2).2.world)).2 =
          Call.ops m.world.2 ++ (m.ctl.session.map ActiveSession.releaseOps).getD [] ++
            [.begin] := by
        rw [release_after_cancelAll]
        simp [journaled_teardown, teardownCalls_ops]
      refine startTransport_ledger c valid ?_ hsession ?_ rfl (by simp [fresh])
      · unfold Machine.ledger
        rw [hops, hsession]
        refine Ledger.begin h.releasable.teardown ?_
          (Live.fresh rfl rfl rfl rfl (ConnectRequest.validated_validated hv))
        intro op hop g hg
        rcases List.mem_append.1 hop with hop | hop
        · exact Nat.lt_succ_of_le (hgen op hop g hg)
        · -- A release starts no producer.
          cases hsess : m.ctl.session with
          | none => simp [hsess] at hop
          | some s =>
            simp only [hsess, Option.map_some, Option.getD_some] at hop
            rw [s.releaseOps_generation op hop] at hg
            cases hg
      · rw [hops]
        simp

/-! ## Events and commands -/

theorem onLinkEvent_ledger (event : LinkEvent) (h : m.ledger c delivered) :
    ((onLinkEvent c.journaled event).run m).2.ledger c delivered := by
  unfold onLinkEvent
  cases event with
  | text raw =>
    dsimp only
    split
    · exact dispatchSignal_ledger c _ h
    · exact (log_quiet c _ _ (Quiet.refl m)).ledger h
  | binary length => exact (log_quiet c _ _ (Quiet.refl m)).ledger h
  | error message => exact (log_quiet c _ _ (Quiet.refl m)).ledger h
  | closed => exact onSignalingClosed_ledger c h

theorem onPeerState_ledger (state : PeerState) (h : m.ledger c delivered) :
    ((onPeerState c.journaled state).run m).2.ledger c delivered := by
  unfold onPeerState
  cases state with
  | connected =>
    simp only [StateT.run_bind, id_bind]
    exact (startStatsSampler_quiet c (markConnected_quiet c (Quiet.refl m))).ledger h
  | failed | disconnected =>
    simp only [StateT.run_bind, current_run, id_bind, pure_fst, pure_snd]
    split
    · exact transportFailure_ledger c _ h
    · exact failSetup_ledger c _ h.releasable
    · exact h
  | new | connecting | closed => exact h

/-- A peer session's report in the live session's generation: a track binds the surface or
adds to it, a local candidate goes out on the channel while it holds the sending end, and a
change of state is handled. The live session, if any, has a peer session. -/
theorem onPeerEvent_ledger (event : PeerEvent) (h : m.ledger c delivered)
    (hk : m.ctl.Consistent) (hpeer : ∀ s, m.ctl.session = some s → s.peer.isSome) :
    ((onPeerEvent c.journaled event).run m).2.ledger c
      (delivered ++ [⟨m.ctl.generation, .peer event⟩]) := by
  have h' : m.ledger c (delivered ++ [⟨m.ctl.generation, .peer event⟩]) :=
    Ledger.append_delivered _ h
  unfold onPeerEvent
  cases event with
  | track stream =>
    simp only [StateT.run_bind, current_run, id_bind, pure_fst, pure_snd]
    split
    · rename_i s hs
      -- A session with a peer session has a channel, so it is peer to peer.
      obtain ⟨body, hlive⟩ := h'.live hs
      have ht : s.request.transport = .peerToPeer := by
        have hsig : s.signaling.isSome := by
          cases hsig : s.signaling with
          | none => simpa [hlive.peer_after_channel hsig] using hpeer s hs
          | some pair => rfl
        exact hlive.channel_peerToPeer hsig
      split
      · rename_i hbound
        simp only [StateT.run_bind, id_bind]
        refine (markConnected_quiet c (Quiet.refl _)).ledger ?_
        exact ledger_of_append h' hs [.setSource (.remote stream)]
          { s with boundStream := some stream.streamId } (by simp) (by simp [hs]) (by simp) rfl
          fun body hlive => by simpa using hlive.bindStream hbound ht _
      · rename_i bound hbound
        split
        · simp only [StateT.run_bind, id_bind]
          refine (markConnected_quiet c (Quiet.refl _)).ledger ?_
          exact ledger_of_append h' hs [.addTrack stream] s (by simp) (by simp [hs]) (by simp) rfl
            fun body hlive => by simpa using hlive.addTrack hbound
        · exact (markConnected_quiet c (Quiet.refl m)).ledger h'
    · exact h'
  | localCandidate candidate sdpMid sdpMLineIndex =>
    by_cases hsend : ∃ s link channel, m.ctl.session = some s ∧
        s.signaling = some (link, channel) ∧ channel.holding = true
    · obtain ⟨s, link, channel, hs, hsig, hh⟩ := hsend
      show ((sendSignal c.journaled _).run m).2.ledger c _
      rw [sendSignal_run c.journaled _ link (by simp [hs, hsig]) hh]
      exact ledger_candidate h hs (hk.session_current s hs).1 hsig hh (hpeer s hs) candidate sdpMid
        sdpMLineIndex (by simp) (by simp [hs])
    · -- Without a channel that holds the sending end nothing is sent.
      show ((sendSignal c.journaled _).run m).2.ledger c _
      rw [sendSignal_run_of_closed c.journaled _ ?_]
      · exact h'
      · intro link channel hsig
        obtain ⟨s, hs, hsig⟩ := Option.bind_eq_some_iff.1 hsig
        cases hh : channel.holding
        · rfl
        · exact absurd ⟨s, link, channel, hs, hsig, hh⟩ hsend
  | stateChanged state => exact onPeerState_ledger c state h'

theorem onEngineEvent_ledger (event : EngineEvent) (h : m.ledger c delivered) :
    ((onEngineEvent c.journaled event).run m).2.ledger c delivered := by
  unfold onEngineEvent
  cases event with
  | manifestParsed => exact (markConnected_quiet c (Quiet.refl m)).ledger h
  | error message =>
    simp only [StateT.run_bind, current_run, id_bind, pure_fst, pure_snd]
    split
    · exact failSetup_ledger c _ h.releasable
    · exact (log_quiet c _ _ (Quiet.refl m)).ledger h
  | ended => exact (log_quiet c _ _ (Quiet.refl m)).ledger h

theorem onReconnectDue_ledger (h : m.ledger c delivered) (hd : m.Dated) :
    ((onReconnectDue c.journaled).run m).2.ledger c delivered := by
  unfold onReconnectDue
  simp only [StateT.run_bind, current_run, id_bind, pure_fst, pure_snd]
  split
  · rename_i request _
    have hq := updateTimers_quiet (fun t => { t with reconnect := none }) (Quiet.refl m)
    simp only [StateT.run_bind, current_run, id_bind, pure_fst, pure_snd]
    split
    · exact hq.ledger h
    · -- The reconnect logs its attempt, then connects.
      have hq' := log_quiet c .info "Attempting automatic reconnect" hq
      have hl := connect_ledger c request (hq'.ledger h) (hq'.dated (by simp) hd)
      simp only [StateT.run_bind, id_bind]
      split
      · exact (log_quiet c _ _ (Quiet.refl _)).ledger hl
      · simp only [StateT.run_pure, pure_snd]
        exact hl
  · exact h

/-- One event, delivered: a stale one at most gives up the link it brought; one of the current
generation goes to its handler. A signaling open finds a live session without a channel, of a
peer-to-peer request, and a peer session's report finds one with a peer session. -/
theorem handleEvent_ledger (e : SessionEvent) (h : m.ledger c delivered) (hk : m.ctl.Consistent)
    (hd : m.Dated)
    (hopened : e.generation = m.ctl.generation → e.kind.isOpened = true →
      ∀ s, m.ctl.session = some s → s.signaling = none ∧ s.request.transport = .peerToPeer)
    (hpeer : e.generation = m.ctl.generation → ∀ event, e.kind = .peer event →
      ∀ s, m.ctl.session = some s → s.peer.isSome) :
    ((handleEvent c.journaled e).run m).2.ledger c (delivered ++ [e]) := by
  have h' : m.ledger c (delivered ++ [e]) := Ledger.append_delivered _ h
  by_cases hg : e.generation = m.ctl.generation
  · rw [handleEvent_current _ hg]
    obtain ⟨g, kind⟩ := e
    dsimp only at hg hopened hpeer ⊢
    subst hg
    cases kind with
    | signalingOpened url result =>
      exact onSignalingOpened_ledger c url result h hk (hopened rfl rfl)
    | link event => exact onLinkEvent_ledger c event h'
    | peer event => exact onPeerEvent_ledger c event h hk (hpeer rfl event rfl)
    | engine event => exact onEngineEvent_ledger c event h'
    | statsReport report => exact (onStatsReport_quiet report (Quiet.refl m)).ledger h'
    | viewerCount result => exact (onViewerCount_quiet result (Quiet.refl m)).ledger h'
    | reconnectDue => exact onReconnectDue_ledger c h' hd
  · -- A stale event at most gives up the link it brought, which is no op.
    rw [handleEvent_stale _ hg]
    refine (show Quiet m { m with world := discard c.journaled e.kind m.world } from
      ⟨?_, rfl⟩).ledger h'
    unfold discard
    split <;> simp

theorem handleCommand_ledger (cmd : Command) (h : m.ledger c delivered) (hd : m.Dated) :
    ((handleCommand c.journaled cmd).run m).2.ledger c delivered := by
  unfold handleCommand
  simp only [StateT.run_bind, current_run, id_bind, pure_fst, pure_snd]
  split
  · exact h
  · cases cmd with
    | toggle =>
      simp only [StateT.run_bind, current_run, id_bind, pure_fst, pure_snd]
      split
      · exact connect_ledger c _ h hd
      · exact disconnect_ledger c h.releasable
    | connect request => exact connect_ledger c request h hd
    | disconnect => exact disconnect_ledger c h.releasable
    | playback event =>
      simp only [StateT.run_bind, id_bind, StateT.run_pure, pure_snd]
      exact (handlePlayback_quiet c event (Quiet.refl m)).ledger h
    | shutdown =>
      simp only [StateT.run_bind, id_bind, StateT.run_pure, pure_snd]
      exact stop_ledger c h.releasable

end Act

end LiveViewer
