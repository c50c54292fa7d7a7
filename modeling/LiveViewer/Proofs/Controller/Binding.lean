import LiveViewer.Proofs.Controller.Negotiation

/-!
# Binding remote media to the surface

A peer session reports each remote track it receives, and the loop hands it to the surface as
`Collaborators.trackCalls` says: the first track of a session binds its stream to the surface, a
later track of the bound stream is added, a track of any other stream is dropped; and every track
marks a connecting session connected. The bound stream belongs to the session: a turn that begins a
generation leaves no stream bound (`Machine.step_fresh`).

Along any inputs, remote media reaches the surface only this way (`Machine.surface_calls`, the
calls listed turn by turn by `Machine.surfaceCalls`). Within one generation the live session stays
the same session or is gone for good (`Machine.run_session_none`), and only its tracks move its
bound stream; so the tracks it receives, in between any other turns, reach the surface as
`Collaborators.bindingCalls` folds them (`Machine.surfaceCalls_of_stays`). From a session with no
stream bound that is `firstStreamCalls`: the first track's stream bound, then exactly the later
tracks of that stream added, in order. `Machine.tracks_bound` gathers these for every state the
loop reaches.
-/

namespace LiveViewer

/-- A call that hands remote media to the surface: a remote stream bound to it, or a track added. -/
def Call.carriesTrack : Call → Bool
  | .setSource (.remote _) | .addTrack _ => true
  | _ => false

theorem Call.carriesTrack_of_routine (x : Call) (h : x.routine = true) :
    x.carriesTrack = false := by
  cases x <;> first | rfl | simp at h

theorem Call.carriesTrack_of_negotiates {x : Call} (h : x.negotiates = true) :
    x.carriesTrack = false := by
  cases x <;> first | rfl | simp [Call.negotiates] at h

namespace Collaborators

@[simp] theorem filter_trackCalls (bound : Option String) (stream : RemoteStream) :
    (trackCalls bound stream).filter Call.carriesTrack = trackCalls bound stream := by
  unfold trackCalls
  split
  · rfl
  · split <;> rfl

/-- The calls on the surface of the tracks `streams`, delivered one after another to a live session
with `bound` bound: each makes its `trackCalls`, the first binding its stream if none was. -/
def bindingCalls : Option String → List RemoteStream → List Call
  | _, [] => []
  | bound, stream :: streams =>
    trackCalls bound stream ++ bindingCalls (some (bound.getD stream.streamId)) streams

/-- The calls on the surface of the tracks `streams`, delivered one after another to a session with
no stream bound: the first track's stream is bound, and the later tracks of that stream are
added. -/
def firstStreamCalls : List RemoteStream → List Call
  | [] => []
  | first :: later =>
    .setSource (.remote first) :: (later.filter fun t => t.streamId = first.streamId).map .addTrack

/-- Once a stream is bound, exactly the tracks of that stream are added, in order. -/
theorem bindingCalls_some (id : String) (streams : List RemoteStream) :
    bindingCalls (some id) streams = (streams.filter fun t => t.streamId = id).map .addTrack := by
  induction streams with
  | nil => rfl
  | cons stream streams ih =>
    by_cases h : stream.streamId = id
    · simp [bindingCalls, trackCalls, ih, h]
    · simp [bindingCalls, trackCalls, ih, h, Ne.symm h]

theorem bindingCalls_none (streams : List RemoteStream) :
    bindingCalls none streams = firstStreamCalls streams := by
  cases streams with
  | nil => rfl
  | cons first later => simp [bindingCalls, trackCalls, firstStreamCalls, bindingCalls_some]

end Collaborators

open Collaborators

/-- The calls on the surface that the turn taking `input` from `k` makes: those of a track of the
current generation, delivered to a running loop while a session is live. -/
def Controller.surfaceCalls (k : Controller) (input : Input) : List Call :=
  match input.track k.generation, k.session with
  | some stream, some s => if k.running then trackCalls s.boundStream stream else []
  | _, _ => []

namespace Machine

variable {W : Type} (c : Collaborators W)

theorem generationsBegun_cons_eq_zero {m : Machine W} {input : Input} {inputs : List Input} :
    generationsBegun c m (input :: inputs) = 0 ↔
      beginsGeneration m.ctl input = false ∧ generationsBegun c (m.step c input) inputs = 0 := by
  cases h : beginsGeneration m.ctl input <;> simp [generationsBegun, h]

theorem running_of_beginsGeneration {k : Controller} {input : Input}
    (h : beginsGeneration k input = true) : k.running = true := by
  cases input <;> simp_all [beginsGeneration]

/-- The calls on the surface that the tracks among `inputs`, taken from `m` on, make. -/
def surfaceCalls (m : Machine W) : List Input → List Call
  | [] => []
  | input :: inputs => m.ctl.surfaceCalls input ++ surfaceCalls (m.step c input) inputs

/-- Of what one turn writes, the remote media handed to the surface is what its track makes. -/
theorem step_surface (m : Machine (W × List Call)) (input : Input) :
    ∃ calls, (m.step c.journaled input).world.2 = m.world.2 ++ calls ∧
      calls.filter Call.carriesTrack = m.ctl.surfaceCalls input := by
  cases hr : m.ctl.running
  · rw [step_stopped c.journaled hr]
    exact ⟨[], by simp, by unfold Controller.surfaceCalls; split <;> simp [hr]⟩
  cases hst : input.stops
  · cases ht : input.track m.ctl.generation with
    | none =>
      -- What a frame asks of the peer session is a negotiation, not media.
      obtain ⟨calls, hw, hc⟩ := (step_writes c Call.carriesTrack_of_routine (fun _ _ _ => rfl)
        (fun _ => ⟨rfl, rfl⟩) (fun _ _ => rfl) m hst ht).calls
      have hneg : ∀ x ∈ (m.ctl.peerCall input).toList, x.negotiates = true := fun x hx => by
        rw [← Controller.filter_peerCall] at hx
        exact (List.mem_filter.1 hx).2
      refine ⟨calls, hw, ?_⟩
      rw [hc, List.filter_eq_nil_iff.2 fun x hx => by
        simp [Call.carriesTrack_of_negotiates (hneg x hx)]]
      simp [Controller.surfaceCalls, ht]
    | some stream =>
      rw [Input.track_eq_some.1 ht, step_track c.journaled hr]
      cases hs : m.ctl.session with
      | none =>
        refine ⟨[], by rw [onPeerEvent_track_none c.journaled hs]; simp, ?_⟩
        simp [Controller.surfaceCalls, Input.track, hs]
      | some s =>
        obtain ⟨⟨calls, hw, hroutine⟩, -⟩ := Act.onPeerEvent_track c stream hs
        refine ⟨trackCalls s.boundStream stream ++ calls, by rw [hw, List.append_assoc], ?_⟩
        rw [List.filter_append, filter_trackCalls,
          Call.filter_eq_nil_of_routine Call.carriesTrack_of_routine hroutine, List.append_nil]
        simp [Controller.surfaceCalls, Input.track, hs, hr]
  · -- A stop releases and logs, and hands nothing to the surface.
    rw [step_ending c.journaled hr (Input.stops_iff.1 hst)]
    obtain ⟨⟨calls, hw, hc⟩, -⟩ := Act.stop_journal c Call.carriesTrack_of_routine m
    refine ⟨calls, hw, ?_⟩
    rcases Input.stops_iff.1 hst with rfl | rfl <;> simpa [Controller.surfaceCalls, Input.track]
      using hc

/-- Along any run, remote media reaches the surface only through its tracks, each as `trackCalls`
says for the stream bound at its turn. -/
theorem surface_calls (m : Machine (W × List Call)) (inputs : List Input) :
    ∃ calls, (m.run c.journaled inputs).world.2 = m.world.2 ++ calls ∧
      calls.filter Call.carriesTrack = m.surfaceCalls c.journaled inputs :=
  run_filter c (surfaceCalls c.journaled) (fun _ => rfl) (fun m input _ => by
    obtain ⟨calls, hw, hc⟩ := step_surface c m input
    exact ⟨calls, hw, by rw [hc]; rfl⟩) m inputs

/-- A turn that begins no generation leaves live only the session live before it, and only a track
of the current generation moves its bound stream. -/
theorem step_session_of_stays {m : Machine (W × List Call)} (hm : Reachable c.journaled m)
    {input : Input} (hb : beginsGeneration m.ctl input = false) {s' : ActiveSession}
    (hs' : (m.step c.journaled input).ctl.session = some s') :
    ∃ s, m.ctl.session = some s ∧ s'.generation = s.generation ∧
      (input.track m.ctl.generation = none → s'.boundStream = s.boundStream) := by
  cases hr : m.ctl.running
  · rw [step_stopped c.journaled hr] at hs'
    exact ⟨s', hs', rfl, fun _ => rfl⟩
  cases hst : input.stops
  · cases ht : input.track m.ctl.generation with
    | none =>
      have hw := step_writes (P := fun _ => false) c (fun _ _ => rfl) (fun _ _ _ => rfl)
        (fun _ => ⟨rfl, rfl⟩) (fun _ _ => rfl) m hst ht
      rcases hw.bound s' hs' with ⟨s, hs, hg, hbound⟩ | ⟨hlt, -⟩
      · exact ⟨s, hs, hg, fun _ => hbound⟩
      · -- A session of a later generation needs a generation begun.
        have hgen := step_generation c.journaled m input
        have hcur := ((reachable_consistent _ (hm.step input)).session_current s' hs').1
        simp only [hb, Bool.false_eq_true, if_false, Nat.add_zero] at hgen
        omega
    | some stream =>
      rw [Input.track_eq_some.1 ht, step_track c.journaled hr] at hs'
      cases hs : m.ctl.session with
      | none =>
        rw [onPeerEvent_track_none c.journaled hs, hs] at hs'
        cases hs'
      | some s =>
        rw [(Act.onPeerEvent_track c stream hs).2.1] at hs'
        cases hs'
        exact ⟨s, rfl, rfl, fun h => by simp at h⟩
  · -- A stop of a running loop begins a generation.
    rcases Input.stops_iff.1 hst with rfl | rfl <;> simp [beginsGeneration, hr] at hb

/-- Within one generation a session that is gone stays gone. -/
theorem run_session_none {m : Machine (W × List Call)} (hm : Reachable c.journaled m)
    (hs : m.ctl.session = none) (inputs : List Input)
    (hg : generationsBegun c.journaled m inputs = 0) :
    (m.run c.journaled inputs).ctl.session = none := by
  induction inputs generalizing m with
  | nil => exact hs
  | cons input inputs ih =>
    obtain ⟨hb, hrest⟩ := (generationsBegun_cons_eq_zero c.journaled).1 hg
    refine ih (hm.step input) ?_ hrest
    cases hs' : (m.step c.journaled input).ctl.session with
    | none => rfl
    | some s' =>
      obtain ⟨s, h, -⟩ := step_session_of_stays c hm hb hs'
      simp [hs] at h

/-- Within one generation, the tracks that a live session receives, in between any other turns,
reach the surface as `bindingCalls` folds them from the stream it had bound, as long as it
lives. -/
theorem surfaceCalls_of_stays {m : Machine (W × List Call)} (hm : Reachable c.journaled m)
    {s : ActiveSession} (hs : m.ctl.session = some s) (inputs : List Input)
    (hg : generationsBegun c.journaled m inputs = 0)
    (hlive : (m.run c.journaled inputs).ctl.session.isSome) :
    m.surfaceCalls c.journaled inputs =
      bindingCalls s.boundStream (inputs.filterMap (Input.track m.ctl.generation)) := by
  induction inputs generalizing m s with
  | nil => rfl
  | cons input inputs ih =>
    obtain ⟨hb, hrest⟩ := (generationsBegun_cons_eq_zero c.journaled).1 hg
    have hgen : (m.step c.journaled input).ctl.generation = m.ctl.generation := by
      simpa [hb] using step_generation c.journaled m input
    have hr := hm.running_of_session c hs
    -- The session lives through the turn, since a session gone stays gone.
    obtain ⟨s', hs'⟩ : ∃ s', (m.step c.journaled input).ctl.session = some s' := by
      cases h : (m.step c.journaled input).ctl.session with
      | some s' => exact ⟨s', rfl⟩
      | none => simp [run_session_none c (hm.step input) h inputs hrest] at hlive
    have ih' := ih (hm.step input) hs' hrest hlive
    rw [hgen] at ih'
    cases ht : input.track m.ctl.generation with
    | none =>
      obtain ⟨s₀, h₀, -, hbound⟩ := step_session_of_stays c hm hb hs'
      rw [hs, Option.some.injEq] at h₀
      subst h₀
      simp only [surfaceCalls, List.filterMap_cons, ht, ih', hbound ht]
      simp [Controller.surfaceCalls, ht]
    | some stream =>
      -- The track binds or adds, then the rest of the run goes on from the bound stream.
      obtain rfl := Input.track_eq_some.1 ht
      rw [step_track c.journaled hr] at hs' ih'
      rw [(Act.onPeerEvent_track c stream hs).2.1, Option.some.injEq] at hs'
      subst hs'
      simp only [surfaceCalls, List.filterMap_cons, ht, bindingCalls, step_track c.journaled hr,
        ih']
      simp [Controller.surfaceCalls, Input.track, hs, hr]

/-- A turn that begins a generation leaves no stream bound. -/
theorem step_fresh {m : Machine (W × List Call)} (hm : Reachable c.journaled m) {input : Input}
    (hb : beginsGeneration m.ctl input = true) {s' : ActiveSession}
    (hs' : (m.step c.journaled input).ctl.session = some s') : s'.boundStream = none := by
  have hr := running_of_beginsGeneration hb
  cases hst : input.stops
  · -- A track begins no generation.
    have ht : input.track m.ctl.generation = none := by
      cases h : input.track m.ctl.generation with
      | none => rfl
      | some stream =>
        rw [Input.track_eq_some.1 h] at hb
        simp [beginsGeneration, EventKind.isReconnectDue] at hb
    have hw := step_writes (P := fun _ => false) c (fun _ _ => rfl) (fun _ _ _ => rfl)
      (fun _ => ⟨rfl, rfl⟩) (fun _ _ => rfl) m hst ht
    rcases hw.bound s' hs' with ⟨s, hs, hg, -⟩ | ⟨-, hnone⟩
    · -- The session live after the turn belongs to the new generation, the one before to the old.
      have hgen := step_generation c.journaled m input
      have hcur' := ((reachable_consistent _ (hm.step input)).session_current s' hs').1
      have hcur := ((reachable_consistent _ hm).session_current s hs).1
      simp only [hb, if_true] at hgen
      omega
    · exact hnone
  · rw [step_ending c.journaled hr (Input.stops_iff.1 hst), Act.stop_ctl] at hs'
    simp at hs'

/-- How the tracks of a peer session reach the surface, from `m` on. -/
structure TracksBound (c : Collaborators W) (m : Machine (W × List Call)) : Prop where
  /-- Along any inputs, remote media reaches the surface only through the tracks, each as
  `trackCalls` says for the stream bound at its turn. -/
  calls : ∀ inputs, ∃ calls, (m.run c.journaled inputs).world.2 = m.world.2 ++ calls ∧
    calls.filter Call.carriesTrack = m.surfaceCalls c.journaled inputs
  /-- A live session with no stream bound, still live after inputs that begin no generation:
  whatever else came in between, the first track it received had its stream bound to the surface,
  then exactly the later tracks of that stream were added, in order, and no other remote media
  reached the surface. -/
  first_stream : ∀ s, m.ctl.session = some s → s.boundStream = none → ∀ inputs,
    generationsBegun c.journaled m inputs = 0 → (m.run c.journaled inputs).ctl.session.isSome →
    ∃ calls, (m.run c.journaled inputs).world.2 = m.world.2 ++ calls ∧
      calls.filter Call.carriesTrack =
        firstStreamCalls (inputs.filterMap (Input.track m.ctl.generation))
  /-- Every track of the current generation marks a connecting session connected, and moves no
  other status. -/
  connected : ∀ s stream, m.ctl.session = some s →
    (m.step c.journaled (.deliver ⟨m.ctl.generation, .peer (.track stream)⟩)).ctl.status =
      if m.ctl.status = .connecting then .connected else m.ctl.status
  /-- A session that begins has no stream bound. -/
  fresh : ∀ input s', beginsGeneration m.ctl input = true →
    (m.step c.journaled input).ctl.session = some s' → s'.boundStream = none

/-- In every state the loop reaches, a session binds the stream of the first track it receives
and then adds exactly the tracks of that stream; a session that begins binds none. -/
theorem tracks_bound {m : Machine (W × List Call)} (h : Reachable c.journaled m) :
    TracksBound c m := by
  refine ⟨surface_calls c m, fun s hs hb inputs hg hlive => ?_, fun s stream hs => ?_,
    fun input s' hb hs' => step_fresh c h hb hs'⟩
  · obtain ⟨calls, hw, hc⟩ := surface_calls c m inputs
    refine ⟨calls, hw, ?_⟩
    rw [hc, surfaceCalls_of_stays c h hs inputs hg hlive, hb, bindingCalls_none]
  · rw [step_track c.journaled (h.running_of_session c hs)]
    exact (Act.onPeerEvent_track c stream hs).2.2.1

/-- Tracks stay bound once a viewer asked to watch a stream of a local server. -/
theorem start_tracks_bound :
    let c := Scenario.World.collaborators true true
    let m := (start default ({}, [])).step c.journaled
      (.command (.connect ⟨"live", "[::1]:8080", .peerToPeer⟩))
    Reachable c.journaled m ∧ TracksBound c m :=
  ⟨.step _ (.start _ _), tracks_bound _ (.step _ (.start _ _))⟩

end Machine

end LiveViewer
