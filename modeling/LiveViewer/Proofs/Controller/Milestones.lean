import LiveViewer.Proofs.Controller.Transitions

/-!
# Milestones in the journal

Two calls in the journal mark a session's progress: the info entry "Connected" handed to the log
sink, and the start of a stats timer, which is tagged with its generation. `Milestone` names them
and `Call.milestone` picks them out of a journal.

Within a generation the handlers write them in a disciplined way, which `Controller.Marks` states
of the states before and after a stretch of handler code: "Connected" is logged at most once, and
only as the session leaves Connecting; and a stats timer is started only on the way to a state
that has one, so that a session which is still live without a stats timer (`Unsampled`) was so
before, and no stats timer was started in between. The same stretch of code keeps the bitrate
baseline or forgets it, the latter only as a session leaves Connected or while it is unsampled:
the one handler that sets a baseline, a stats reading, is a turn of its own. `Machine.Marked`
lifts this to the journal, and each handler carries it over, from its last step back to its
first, as the tags are carried in `Journal.lean`.

A turn of the loop then writes its milestones in one of four ways (`Machine.TurnMarks`): within
its generation, as the handlers do; none at all, as a disconnect settles the status; after a new
session began, from the Connecting state of the next generation; or none, as a reading is taken
while Connected (`Machine.takes`).
-/

namespace LiveViewer

/-- What the journal shows of a session's progress. -/
inductive Milestone where
  /-- The info entry "Connected" reached the log sink. -/
  | connected
  /-- A stats timer was started in generation `generation`. -/
  | sampling (generation : Nat)
  deriving DecidableEq

/-- The milestone a call is, if it is one. -/
@[simp] def Call.milestone : Call → Option Milestone
  | .record ⟨.info, "Connected"⟩ => some .connected
  | .spawn g (.statsTimer ..) _ => some (.sampling g)
  | _ => none

/-- A log entry other than the info entry "Connected" is no milestone. -/
theorem Call.milestone_record {level : Level} {message : String}
    (h : level ≠ .info ∨ message ≠ "Connected") : Call.milestone (.record ⟨level, message⟩) = none := by
  cases level <;> simp_all

/-- A text that does not begin as "Connected" does is not "Connected". -/
theorem append_ne_connected {p : String} (h : ¬p.toList <+: "Connected".toList) (s : String) :
    p ++ s ≠ "Connected" := by
  intro he
  apply h
  rw [← he, String.toList_append]
  exact List.prefix_append _ _

namespace Controller

/-- The session is live and its stats timer has not started: it is Connecting, or Connected
without a stats timer. -/
def Unsampled (k : Controller) : Prop :=
  k.status = .connecting ∨ (k.status = .connected ∧ k.timers.stats = none)

/-- Releasing a live session resets the sampler. -/
@[simp] theorem released_sampler (k : Controller) :
    k.released.sampler = if k.session.isSome then k.sampler.reset else k.sampler := by
  cases h : k.session <;> simp [released, h]

@[simp] theorem ended_sampler (k : Controller) : k.ended.sampler = k.released.sampler := by
  simp [ended]

@[simp] theorem disconnected_sampler (k : Controller) :
    k.disconnected.sampler = k.released.sampler := by
  cases h : k.session <;> by_cases hi : k.status = .idle <;> simp [disconnected, h, hi]

@[simp] theorem begun_sampler (k : Controller) (request : ConnectRequest) :
    (k.begun request).sampler = k.released.sampler := by
  simp [begun]

/-- From `k` to `k'` the bitrate baseline was forgotten, or kept where there was no session to
release. -/
def Forgets (k k' : Controller) : Prop :=
  k'.sampler.prev = none ∨ (k'.sampler.prev = k.sampler.prev ∧ k.session = none)

/-- A controller whose sampler is the one a release leaves forgot the baseline. -/
theorem forgets_of_sampler {k k' : Controller} (h : k'.sampler = k.released.sampler) :
    Forgets k k' := by
  unfold Forgets
  rw [h, released_sampler]
  cases hs : k.session
  · exact .inr ⟨rfl, rfl⟩
  · exact .inl rfl

/-- What the milestones `ms`, written on the way from `k` to `k'` within one generation, say of
the two states. -/
structure Marks (k k' : Controller) (ms : List Milestone) : Prop where
  /-- "Connected" is logged at most once, and only as the session leaves Connecting; otherwise a
  session Connecting at the end was Connecting at the start. -/
  connected : (ms.count .connected = 0 ∧ (k'.status = .connecting → k.status = .connecting)) ∨
    (ms.count .connected = 1 ∧ k.status = .connecting ∧ k'.status ≠ .connecting)
  /-- A session unsampled at the end was unsampled at the start, and no stats timer started. -/
  sampling : k'.Unsampled → k.Unsampled ∧ ∀ g, Milestone.sampling g ∉ ms
  /-- A session Connected at the end was Connecting or Connected at the start. -/
  live : k'.status = .connected → k.status = .connecting ∨ k.status = .connected
  /-- The bitrate baseline is kept, and no session went away; or it is gone, and the session is
  not Connected at the end or was unsampled at the start. -/
  baseline : (k'.sampler.prev = k.sampler.prev ∧ (k'.session = none → k.session = none)) ∨
    (k'.sampler.prev = none ∧ (k'.status ≠ .connected ∨ k.Unsampled))

namespace Marks

/-- A change of neither the status, the stats timer nor the baseline, that writes no milestone
and keeps a session. -/
theorem of_core {k k' : Controller} (hs : k'.status = k.status)
    (ht : k'.timers.stats = k.timers.stats)
    (hp : k'.sampler.prev = k.sampler.prev ∧ (k'.session = none → k.session = none)) :
    Marks k k' [] where
  connected := .inl ⟨rfl, fun h => hs ▸ h⟩
  sampling h := ⟨by unfold Unsampled at h ⊢; rwa [hs, ht] at h, by simp⟩
  live h := .inr (hs.symm.trans h)
  baseline := .inl hp

theorem refl (k : Controller) : Marks k k [] := of_core rfl rfl ⟨rfl, id⟩

/-- A change that settles the status on Idle or Disconnected, forgets the baseline and writes no
milestone. -/
theorem of_settled {k k' : Controller} (h : k'.status = .idle ∨ k'.status = .disconnected)
    (hf : Forgets k k') : Marks k k' [] where
  connected := .inl ⟨rfl, fun hc => by rcases h with h | h <;> simp [h] at hc⟩
  sampling hu := by
    unfold Unsampled at hu
    rcases h with h | h <;> simp [h] at hu
  live hc := by rcases h with h | h <;> simp [h] at hc
  baseline := by
    rcases hf with hn | ⟨hp, hs⟩
    · exact .inr ⟨hn, .inl (by rcases h with h | h <;> simp [h])⟩
    · exact .inl ⟨hp, fun _ => hs⟩

theorem trans {k₁ k₂ k₃ : Controller} {ms₁ ms₂ : List Milestone} (h₁ : Marks k₁ k₂ ms₁)
    (h₂ : Marks k₂ k₃ ms₂) : Marks k₁ k₃ (ms₁ ++ ms₂) where
  connected := by
    rw [List.count_append]
    -- A second "Connected" would need the session Connecting again after it left.
    rcases h₁.connected with ⟨n₁, c₁⟩ | ⟨n₁, s₁, e₁⟩ <;>
      rcases h₂.connected with ⟨n₂, c₂⟩ | ⟨n₂, s₂, e₂⟩
    · exact .inl ⟨by omega, fun h => c₁ (c₂ h)⟩
    · exact .inr ⟨by omega, c₁ s₂, e₂⟩
    · exact .inr ⟨by omega, s₁, fun h => e₁ (c₂ h)⟩
    · exact absurd s₂ e₁
  sampling h := by
    obtain ⟨h₂', hn₂⟩ := h₂.sampling h
    obtain ⟨h₁', hn₁⟩ := h₁.sampling h₂'
    refine ⟨h₁', fun g hg => ?_⟩
    rcases List.mem_append.1 hg with hg | hg
    · exact hn₁ g hg
    · exact hn₂ g hg
  live h := by
    rcases h₂.live h with h₂' | h₂'
    · -- Connecting in between was Connecting at the start.
      rcases h₁.connected with ⟨-, c₁⟩ | ⟨-, -, e₁⟩
      · exact .inl (c₁ h₂')
      · exact absurd h₂' e₁
    · exact h₁.live h₂'
  baseline := by
    have hu : k₂.Unsampled → k₁.Unsampled := fun h => (h₁.sampling h).1
    rcases h₁.baseline with ⟨p₁, s₁⟩ | ⟨n₁, o₁⟩ <;> rcases h₂.baseline with ⟨p₂, s₂⟩ | ⟨n₂, o₂⟩
    · exact .inl ⟨p₂.trans p₁, fun h => s₁ (s₂ h)⟩
    · exact .inr ⟨n₂, o₂.imp_right hu⟩
    · -- Forgotten first and kept since: a session Connected at the end was Connecting in
      -- between, hence unsampled at the start, unless it was already unsampled.
      refine .inr ⟨p₂.trans n₁, ?_⟩
      by_cases hc : k₃.status = .connected
      · rcases o₁ with o₁ | o₁
        · rcases h₂.live hc with h | h
          · exact .inr (hu (.inl h))
          · exact absurd h o₁
        · exact .inr o₁
      · exact .inl hc
    · exact .inr ⟨n₂, o₂.imp_right hu⟩

end Marks

end Controller

namespace Collaborators

theorem timerAborts_milestones (t : Timers) : (timerAborts t).filterMap Call.milestone = [] := by
  simp [timerAborts, List.filterMap_map, Function.comp_def]

theorem releaseCalls_milestones (s : ActiveSession) (stats : Option Nat) :
    (releaseCalls s stats).filterMap Call.milestone = [] := by
  unfold releaseCalls
  simp only [List.filterMap_append, List.filterMap_map, Function.comp_def, Call.milestone]
  (repeat' split) <;> simp

/-- A teardown writes no milestone. -/
theorem teardownCalls_milestones (k : Controller) :
    (teardownCalls k).filterMap Call.milestone = [] := by
  unfold teardownCalls
  split <;> simp [timerAborts_milestones, releaseCalls_milestones]

end Collaborators

/-! ## Readings -/

/-- The reading of the inbound counters a stats report brings, if it brings one. -/
def EventKind.reading : EventKind → Option Stats.Sample
  | .statsReport (some r) => some ⟨r.bytesReceived, r.timestampMs⟩
  | _ => none

/-- A kind of event brings a reading exactly when it is a stats report with one. -/
theorem EventKind.reading_eq_some {kind : EventKind} {x : Stats.Sample} :
    kind.reading = some x ↔ ∃ r, kind = .statsReport (some r) ∧ x = ⟨r.bytesReceived, r.timestampMs⟩ := by
  constructor
  · intro h
    cases kind with
    | statsReport report =>
      cases report with
      | some r => exact ⟨r, rfl, (Option.some.inj h).symm⟩
      | none => cases h
    | _ => cases h
  · rintro ⟨r, rfl, rfl⟩
    rfl

namespace Machine

variable {W : Type}

/-- The reading a turn from `m` takes: that of a stats report of the current generation,
delivered to a running controller that is Connected. -/
def takes (m : Machine W) : Input → Option Stats.Sample
  | .deliver e =>
    if m.ctl.running = true ∧ e.generation = m.ctl.generation ∧ m.ctl.status = .connected then
      e.kind.reading
    else none
  | .command _ | .hangUp => none

end Machine

namespace Act

variable {W : Type}

/-- A stats report that brings no reading, or arrives while not Connected, changes nothing. -/
theorem onStatsReport_run_ignored {report : Option InboundReport} {m : Machine W}
    (h : report = none ∨ m.ctl.status ≠ .connected) :
    ((onStatsReport report : Act W Unit).run m).2 = m := by
  rcases h with rfl | hs
  · simp [onStatsReport]
  · simp [onStatsReport, hs]

/-- A reading taken while Connected moves the sampler and publishes the bitrate and the latency
it gives; nothing else changes, in the controller or in the world. -/
theorem onStatsReport_run_connected {m : Machine W} (hs : m.ctl.status = .connected)
    (r : InboundReport) :
    ((onStatsReport (some r) : Act W Unit).run m).2 =
      let sampled := m.ctl.sampler.sample ⟨r.bytesReceived, r.timestampMs⟩
      ⟨{ m.ctl with
        sampler := sampled.2
        stats := { m.ctl.stats with
          bitrateKbps := sampled.1, latencyMs := latencyOf r.roundTripMs } }.publishNow,
        m.world⟩ := by
  simp [onStatsReport, hs]

end Act

namespace Machine

open Controller

variable {W : Type}

/-- From `m` to `m'` the journal only grew, by calls whose milestones `Marks` allows between the
two controllers. -/
def Marked (m m' : Machine (W × List Call)) : Prop :=
  ∃ calls, m'.world.2 = m.world.2 ++ calls ∧ m.ctl.Marks m'.ctl (calls.filterMap Call.milestone)

namespace Marked

theorem refl (m : Machine (W × List Call)) : Marked m m := ⟨[], by simp, .refl _⟩

theorem trans {m₁ m₂ m₃ : Machine (W × List Call)} (h₁ : Marked m₁ m₂) (h₂ : Marked m₂ m₃) :
    Marked m₁ m₃ := by
  obtain ⟨calls₁, hw₁, hm₁⟩ := h₁
  obtain ⟨calls₂, hw₂, hm₂⟩ := h₂
  refine ⟨calls₁ ++ calls₂, by rw [hw₂, hw₁, List.append_assoc], ?_⟩
  rw [List.filterMap_append]
  exact hm₁.trans hm₂

/-- A step that writes calls with no milestone and keeps the status, the stats timer, the
baseline and a session. -/
theorem extend {m₀ m m' : Machine (W × List Call)} (h : Marked m₀ m) (calls : List Call)
    (hw : m'.world.2 = m.world.2 ++ calls) (hq : calls.filterMap Call.milestone = [])
    (hs : m'.ctl.status = m.ctl.status) (ht : m'.ctl.timers.stats = m.ctl.timers.stats)
    (hp : m'.ctl.sampler.prev = m.ctl.sampler.prev ∧ (m'.ctl.session = none → m.ctl.session = none)) :
    Marked m₀ m' :=
  h.trans ⟨calls, hw, hq ▸ .of_core hs ht hp⟩

/-- A step that writes calls with no milestone, settles the status on Idle or Disconnected and
forgets the baseline. -/
theorem settle {m₀ m m' : Machine (W × List Call)} (h : Marked m₀ m) (calls : List Call)
    (hw : m'.world.2 = m.world.2 ++ calls) (hq : calls.filterMap Call.milestone = [])
    (hs : m'.ctl.status = .idle ∨ m'.ctl.status = .disconnected) (hf : m.ctl.Forgets m'.ctl) :
    Marked m₀ m' :=
  h.trans ⟨calls, hw, hq ▸ .of_settled hs hf⟩

end Marked

end Machine

namespace Act

open Machine Collaborators

variable {W : Type} (c : Collaborators W) {m₀ m : Machine (W × List Call)}

/-! ## The primitive steps -/

theorem updateSession_marked (f : ActiveSession → ActiveSession) (h : Marked m₀ m) :
    Marked m₀ ((updateSession f : Act (W × List Call) Unit).run m).2 :=
  h.extend [] (by simp) rfl rfl rfl ⟨rfl, fun hs => by simpa using hs⟩

theorem updateTimers_marked (f : Timers → Timers) (ht : ∀ t, (f t).stats = t.stats)
    (h : Marked m₀ m) : Marked m₀ ((updateTimers f : Act (W × List Call) Unit).run m).2 :=
  h.extend [] (by simp) rfl rfl (ht _) ⟨rfl, id⟩

theorem publish_marked (h : Marked m₀ m) :
    Marked m₀ ((publish : Act (W × List Call) Unit).run m).2 :=
  h.extend [] (by simp) rfl rfl rfl ⟨rfl, id⟩

/-- A call on the world that writes no milestone. -/
theorem touch_marked (f : W × List Call → W × List Call)
    (hf : ∀ w, ∃ calls, (f w).2 = w.2 ++ calls ∧ calls.filterMap Call.milestone = [])
    (h : Marked m₀ m) : Marked m₀ ((touch f).run m).2 := by
  obtain ⟨calls, hw, hq⟩ := hf m.world
  exact h.extend calls hw hq rfl rfl ⟨rfl, id⟩

/-- A question to the world that writes no milestone. -/
theorem ask_marked {α : Type} (f : W × List Call → α × (W × List Call))
    (hf : ∀ w, ∃ calls, (f w).2.2 = w.2 ++ calls ∧ calls.filterMap Call.milestone = [])
    (h : Marked m₀ m) : Marked m₀ ((ask f).run m).2 := by
  obtain ⟨calls, hw, hq⟩ := hf m.world
  exact h.extend calls hw hq rfl rfl ⟨rfl, id⟩

/-- A log entry other than the info entry "Connected". -/
theorem log_marked (level : Level) (message : String) (hl : level ≠ .info ∨ message ≠ "Connected")
    (h : Marked m₀ m) : Marked m₀ ((log c.journaled level message).run m).2 :=
  h.extend [.record ⟨level, message⟩] rfl (by simp only [List.filterMap_cons,
    Call.milestone_record hl, List.filterMap_nil]) rfl rfl ⟨rfl, id⟩

theorem setOverlay_marked (overlay : Option String) (h : Marked m₀ m) :
    Marked m₀ ((setOverlay c.journaled overlay).run m).2 :=
  h.extend [.showOverlay overlay] rfl (by simp) rfl rfl ⟨rfl, id⟩

/-- A producer other than a stats timer is started. -/
theorem spawn_marked (p : Producer) (hp : ∀ g task, Call.milestone (.spawn g p task) = none)
    (h : Marked m₀ m) : Marked m₀ ((spawn c.journaled p).run m).2 :=
  h.extend [.spawn m.ctl.generation p (c.spawn m.ctl.generation p m.world.1).1] rfl
    (by simp only [List.filterMap_cons, hp, List.filterMap_nil]) rfl rfl ⟨rfl, id⟩

/-! ## Ending a session -/

theorem endSession_marked (h : Marked m₀ m) : Marked m₀ ((endSession c.journaled).run m).2 := by
  refine h.settle (teardownCalls m.ctl ++ [.showOverlay (some disconnectedOverlay)]) ?_ ?_
    (.inr (endSession_status _ m)) (by rw [endSession_ctl]; exact Controller.forgets_of_sampler (Controller.ended_sampler _))
  · rw [endSession_world]
    simp [journaled_teardown]
  · rw [List.filterMap_append, teardownCalls_milestones]
    rfl

theorem failSetup_marked (e : ViewerError) (h : Marked m₀ m) :
    Marked m₀ ((failSetup c.journaled e).run m).2 := by
  refine h.settle ([.record ⟨.error, e.message⟩] ++ teardownCalls m.ctl ++
    [.showOverlay (some disconnectedOverlay)]) ?_ ?_ (.inr (failSetup_status _ e m))
    (by rw [failSetup_ctl]; exact Controller.forgets_of_sampler (by simp))
  · rw [failSetup_world]
    simp [journaled_teardown]
  · rw [List.filterMap_append, List.filterMap_append, teardownCalls_milestones]
    rfl

/-! ## Marking connected, and the timers -/

theorem startViewerCountTimer_marked (h : Marked m₀ m) :
    Marked m₀ ((startViewerCountTimer c.journaled).run m).2 := by
  unfold startViewerCountTimer
  simp only [StateT.run_bind, current_run, id_bind, pure_fst, pure_snd]
  split
  · exact h
  · split
    · simp only [StateT.run_bind, id_bind]
      exact updateTimers_marked _ (by intros; rfl)
        (spawn_marked c (.viewerTimer _ _ _) (by intros; rfl) h)
    · exact h

/-- The only "Connected" of a generation: logged as the session leaves Connecting. -/
theorem markConnected_marked (h : Marked m₀ m) :
    Marked m₀ ((markConnected c.journaled).run m).2 := by
  by_cases hs : m.ctl.status = .connecting
  · simp only [markConnected, StateT.run_bind, current_run, hs, id_bind, pure_fst, pure_snd,
      bne_self_eq_false, Bool.false_eq_true, if_false]
    refine publish_marked (startViewerCountTimer_marked c
      (h.trans ⟨[.showOverlay none, .record ⟨.info, "Connected"⟩], by simp, ?_⟩))
    exact ⟨.inr ⟨by decide, hs, by simp⟩, fun _ => ⟨.inl hs, by simp⟩, fun _ => .inl hs,
      .inl ⟨rfl, id⟩⟩
  · rw [markConnected_of_ne _ hs]
    exact h

/-- The stats timer starts past Connecting, and then the session has one. -/
theorem startStatsSampler_marked (hs : m.ctl.status ≠ .connecting) (h : Marked m₀ m) :
    Marked m₀ ((startStatsSampler c.journaled).run m).2 := by
  unfold startStatsSampler
  simp only [StateT.run_bind, current_run, id_bind, pure_fst, pure_snd]
  split
  · exact h
  · rename_i hn
    have hstats : m.ctl.timers.stats = none := by
      revert hn
      cases m.ctl.timers.stats <;> simp
    split
    · simp only [StateT.run_bind, update_run, spawn_run, updateTimers_run, id_bind, pure_fst,
        pure_snd]
      refine h.trans ⟨_, rfl, .inl ⟨by simp, fun h' => absurd h' hs⟩, fun hu => ?_, Or.inr, ?_⟩
      · have hc : m.ctl.status = .connecting := by simpa [Controller.Unsampled] using hu
        exact absurd hc hs
      · -- The reset comes before any reading: a Connected session is still unsampled.
        refine .inr ⟨rfl, ?_⟩
        by_cases hc : m.ctl.status = .connected
        · exact .inr (.inr ⟨hc, hstats⟩)
        · exact .inl hc
    · exact h

/-! ## Starting the transport -/

theorem openSignaling_marked (request : ConnectRequest) (h : Marked m₀ m) :
    Marked m₀ ((openSignaling c.journaled request).run m).2 := by
  unfold openSignaling
  split
  · exact failSetup_marked c _ h
  · simp only [StateT.run_bind, id_bind]
    exact updateSession_marked _ (spawn_marked c (.opener _) (by intros; rfl) h)

theorem attachSegmented_marked (manifest : Url) (h : Marked m₀ m) :
    Marked m₀ ((attachSegmented c.journaled manifest).run m).2 := by
  unfold attachSegmented
  simp only [StateT.run_bind, id_bind, journaled_startEngine]
  split
  · simp only [StateT.run_bind, id_bind, StateT.run_pure, pure_snd]
    exact touch_marked _ (by simp) h
  · cases c.startEngine with
    | none => exact h
    | some start =>
      simp only [Option.map_some, StateT.run_bind, id_bind]
      split <;> simp only [StateT.run_pure, pure_snd] <;>
        exact ask_marked _ (by simp) (touch_marked _ (by simp) h)

theorem startSegmented_marked (request : ConnectRequest) (h : Marked m₀ m) :
    Marked m₀ ((startSegmented c.journaled request).run m).2 := by
  unfold startSegmented
  cases manifestUrl request.serverEndpoint request.streamKey with
  | error e => exact failSetup_marked c _ h
  | ok manifest =>
    simp only [StateT.run_bind, id_bind]
    have h₁ := attachSegmented_marked c manifest h
    split
    · exact failSetup_marked c _ h₁
    · simp only [StateT.run_bind, id_bind]
      split
      · exact markConnected_marked c (updateSession_marked _
          (spawn_marked c (.enginePump _) (by intros; rfl) h₁))
      · exact updateSession_marked _ (spawn_marked c (.enginePump _) (by intros; rfl) h₁)

theorem startTransport_marked (request : ConnectRequest) (h : Marked m₀ m) :
    Marked m₀ ((startTransport c.journaled request).run m).2 := by
  unfold startTransport
  split
  · exact openSignaling_marked c request h
  · exact startSegmented_marked c request h

/-! ## Signaling -/

theorem sendSignal_marked (msg : SignalMessage) (h : Marked m₀ m) :
    Marked m₀ ((sendSignal c.journaled msg).run m).2 := by
  unfold sendSignal
  simp only [StateT.run_bind, current_run, id_bind, pure_fst, pure_snd]
  split
  · split
    · exact touch_marked _ (by simp) h
    · exact h
  · exact h

theorem startNegotiation_marked (h : Marked m₀ m) :
    Marked m₀ ((startNegotiation c.journaled).run m).2 := by
  unfold startNegotiation
  simp only [StateT.run_bind, current_run, id_bind, pure_fst, pure_snd]
  split
  · simp only [StateT.run_pure, pure_snd]
    exact ask_marked _ (by simp) h
  · simp only [StateT.run_bind, current_run, id_bind, pure_fst, pure_snd]
    split
    · -- The session went away: the new peer session and its pump are given up at once.
      simp only [StateT.run_bind, id_bind, StateT.run_pure, pure_snd]
      exact touch_marked _ (by simp) (touch_marked _ (by simp)
        (spawn_marked c (.peerPump _) (by intros; rfl) (ask_marked _ (by simp) h)))
    · simp only [StateT.run_bind, id_bind]
      split
      · simp only [StateT.run_pure, pure_snd]
        exact ask_marked _ (by simp) (updateSession_marked _
          (spawn_marked c (.peerPump _) (by intros; rfl) (ask_marked _ (by simp) h)))
      · simp only [StateT.run_bind, id_bind, StateT.run_pure, pure_snd]
        exact sendSignal_marked c _ (ask_marked _ (by simp) (updateSession_marked _
          (spawn_marked c (.peerPump _) (by intros; rfl) (ask_marked _ (by simp) h))))

theorem onSignalingOpened_marked (url : Url) (result : Except SignalingError Nat)
    (h : Marked m₀ m) : Marked m₀ ((onSignalingOpened c.journaled url result).run m).2 := by
  unfold onSignalingOpened
  simp only [StateT.run_bind, current_run, id_bind, pure_fst, pure_snd]
  split
  · split
    · simp only [StateT.run_bind, id_bind, StateT.run_pure, pure_snd]
      exact touch_marked _ (by simp) h
    · exact h
  · split
    · simp only [StateT.run_bind, id_bind]
      exact endSession_marked c (log_marked c _ _ (.inl (by decide)) h)
    · simp only [StateT.run_bind, current_run, id_bind, pure_fst, pure_snd]
      -- "Signaling connected to ..." is not "Connected".
      have hl : "Signaling connected to " ++ url.text ≠ "Connected" :=
        append_ne_connected (by decide) _
      split
      · simp only [StateT.run_bind, id_bind]
        split
        · exact failSetup_marked c _ (startNegotiation_marked c (updateSession_marked _
            (touch_marked _ (by simp) (spawn_marked c (.linkPump _) (by intros; rfl)
              (log_marked c _ _ (.inr hl) h)))))
        · exact startNegotiation_marked c (updateSession_marked _ (touch_marked _ (by simp)
            (spawn_marked c (.linkPump _) (by intros; rfl) (log_marked c _ _ (.inr hl) h))))
      · simp only [StateT.run_bind, id_bind]
        split
        · exact failSetup_marked c _ (startNegotiation_marked c (updateSession_marked _
            (spawn_marked c (.linkPump _) (by intros; rfl) (log_marked c _ _ (.inr hl) h))))
        · exact startNegotiation_marked c (updateSession_marked _
            (spawn_marked c (.linkPump _) (by intros; rfl) (log_marked c _ _ (.inr hl) h)))

theorem dispatchSignal_marked (msg : SignalMessage) (h : Marked m₀ m) :
    Marked m₀ ((dispatchSignal c.journaled msg).run m).2 := by
  unfold dispatchSignal
  cases msg with
  | answer sdp =>
    simp only [StateT.run_bind, current_run, id_bind, pure_fst, pure_snd]
    split
    · simp only [StateT.run_bind, id_bind]
      split
      · simp only [StateT.run_pure, pure_snd]
        exact ask_marked _ (by simp) h
      · simp only [StateT.run_bind, current_run, id_bind, pure_fst, pure_snd]
        split
        · exact failSetup_marked c _ (ask_marked _ (by simp) h)
        · exact log_marked c _ _ (.inl (by decide)) (ask_marked _ (by simp) h)
    · exact h
  | iceCandidate candidate sdpMid sdpMLineIndex =>
    simp only [StateT.run_bind, current_run, id_bind, pure_fst, pure_snd]
    split
    · simp only [StateT.run_bind, id_bind]
      split
      · simp only [StateT.run_pure, pure_snd]
        exact ask_marked _ (by simp) h
      · exact log_marked c _ _ (.inl (by decide)) (ask_marked _ (by simp) h)
    · exact h
  | error message => exact log_marked c _ _ (.inl (by decide)) h
  | offer => exact log_marked c _ _ (.inl (by decide)) h

theorem onSignalingClosed_marked (h : Marked m₀ m) :
    Marked m₀ ((onSignalingClosed c.journaled).run m).2 := by
  unfold onSignalingClosed
  simp only [StateT.run_bind, current_run, id_bind, pure_fst, pure_snd]
  split
  · split
    · simp only [StateT.run_bind, current_run, id_bind, pure_fst, pure_snd]
      split
      · exact endSession_marked c (log_marked c _ _ (.inl (by decide))
          (updateSession_marked _ (touch_marked _ (by simp) h)))
      · exact log_marked c _ _ (.inl (by decide))
          (updateSession_marked _ (touch_marked _ (by simp) h))
    · simp only [StateT.run_bind, current_run, id_bind, pure_fst, pure_snd]
      split
      · exact endSession_marked c (log_marked c _ _ (.inl (by decide)) (updateSession_marked _ h))
      · exact log_marked c _ _ (.inl (by decide)) (updateSession_marked _ h)
  · simp only [StateT.run_bind, current_run, id_bind, pure_fst, pure_snd]
    split
    · exact endSession_marked c (log_marked c _ _ (.inl (by decide)) h)
    · exact log_marked c _ _ (.inl (by decide)) h

theorem onLinkEvent_marked (e : LinkEvent) (h : Marked m₀ m) :
    Marked m₀ ((onLinkEvent c.journaled e).run m).2 := by
  unfold onLinkEvent
  cases e with
  | text raw =>
    dsimp only
    split
    · exact dispatchSignal_marked c _ h
    · exact log_marked c _ _ (.inl (by decide)) h
  | binary length => exact log_marked c _ _ (.inl (by decide)) h
  | error message => exact log_marked c _ _ (.inl (by decide)) h
  | closed => exact onSignalingClosed_marked c h

/-! ## The peer session and the segment engine -/

theorem scheduleReconnect_marked (request : ConnectRequest) (delayMs : Nat) (h : Marked m₀ m) :
    Marked m₀ ((scheduleReconnect c.journaled request delayMs).run m).2 := by
  unfold scheduleReconnect
  simp only [StateT.run_bind, current_run, id_bind, pure_fst, pure_snd]
  split
  · simp only [StateT.run_bind, id_bind]
    exact updateTimers_marked _ (by intros; rfl) (touch_marked _ (by simp)
      (spawn_marked c (.reconnectTimer _) (by intros; rfl) h))
  · exact updateTimers_marked _ (by intros; rfl)
      (spawn_marked c (.reconnectTimer _) (by intros; rfl) h)

theorem transportFailure_marked (state : PeerState) (h : Marked m₀ m) :
    Marked m₀ ((transportFailure c.journaled state).run m).2 := by
  unfold transportFailure
  simp only [StateT.run_bind, current_run, id_bind, pure_fst, pure_snd]
  split
  · simp only [StateT.run_bind, current_run, id_bind, pure_fst, pure_snd]
    -- "Reconnecting in ... ms" is not "Connected".
    refine scheduleReconnect_marked c _ _ (log_marked c .info _ (.inr ?_)
      (endSession_marked c (log_marked c _ _ (.inl (by decide)) h)))
    rw [String.append_assoc]
    exact append_ne_connected (by decide) _
  · exact endSession_marked c (log_marked c _ _ (.inl (by decide)) h)

theorem onPeerState_marked (state : PeerState) (h : Marked m₀ m) :
    Marked m₀ ((onPeerState c.journaled state).run m).2 := by
  unfold onPeerState
  cases state with
  | connected =>
    simp only [StateT.run_bind, id_bind]
    exact startStatsSampler_marked c (markConnected_status_ne _ m) (markConnected_marked c h)
  | failed | disconnected =>
    simp only [StateT.run_bind, current_run, id_bind, pure_fst, pure_snd]
    split
    · exact transportFailure_marked c _ h
    · exact failSetup_marked c _ h
    · exact h
  | new | connecting | closed => exact h

theorem onPeerEvent_marked (e : PeerEvent) (h : Marked m₀ m) :
    Marked m₀ ((onPeerEvent c.journaled e).run m).2 := by
  unfold onPeerEvent
  cases e with
  | track stream =>
    simp only [StateT.run_bind, current_run, id_bind, pure_fst, pure_snd]
    split
    · split
      · simp only [StateT.run_bind, id_bind]
        exact markConnected_marked c (touch_marked _ (by simp) (updateSession_marked _ h))
      · split
        · simp only [StateT.run_bind, id_bind]
          exact markConnected_marked c (touch_marked _ (by simp) h)
        · exact markConnected_marked c h
    · exact h
  | localCandidate candidate sdpMid sdpMLineIndex => exact sendSignal_marked c _ h
  | stateChanged state => exact onPeerState_marked c state h

theorem onEngineEvent_marked (e : EngineEvent) (h : Marked m₀ m) :
    Marked m₀ ((onEngineEvent c.journaled e).run m).2 := by
  unfold onEngineEvent
  cases e with
  | manifestParsed => exact markConnected_marked c h
  | error message =>
    simp only [StateT.run_bind, current_run, id_bind, pure_fst, pure_snd]
    split
    · exact failSetup_marked c _ h
    · exact log_marked c _ _ (.inl (by decide)) h
  | ended => exact log_marked c _ _ (.inr (by decide)) h

/-- A stats report that brings no reading, or arrives while not Connected, is not taken. -/
theorem onStatsReport_marked {report : Option InboundReport}
    (hq : report = none ∨ m.ctl.status ≠ .connected) (h : Marked m₀ m) :
    Marked m₀ ((onStatsReport report : Act (W × List Call) Unit).run m).2 := by
  rw [onStatsReport_run_ignored hq]
  exact h

theorem onViewerCount_marked (result : Except String UInt32) (h : Marked m₀ m) :
    Marked m₀ ((onViewerCount result : Act (W × List Call) Unit).run m).2 := by
  cases result with
  | ok count =>
    simp only [onViewerCount, StateT.run_bind, update_run, id_bind, pure_snd]
    exact publish_marked (h.extend [] (by simp) rfl rfl rfl ⟨rfl, id⟩)
  | error message => exact h

/-! ## Refused connects, playback and disconnects -/

theorem handlePlayback_marked (event : PlaybackEvent) (h : Marked m₀ m) :
    Marked m₀ ((handlePlayback c.journaled event).run m).2 := by
  unfold handlePlayback
  cases event with
  | error message =>
    exact publish_marked (setOverlay_marked c _ (log_marked c _ _ (.inl (by decide)) h))
  | _ => exact publish_marked (setOverlay_marked c _ h)

/-- A connect it does not accept writes at most an error entry. -/
theorem connect_refused_marked {request : ConnectRequest} (ha : m.ctl.accepts request = false)
    (h : Marked m₀ m) : Marked m₀ ((connect c.journaled request).run m).2 := by
  cases hv : request.validated with
  | error field =>
    rw [connect_run_invalid _ hv]
    exact log_marked c _ _ (.inl (by decide)) h
  | ok valid =>
    have hs : m.ctl.status = .connecting := by
      simpa [Controller.accepts, hv, Except.isOk, Except.toBool] using ha
    rw [connect_run_busy _ hv hs]
    exact h

/-- The reconnect timer's event of a reconnect it does not accept writes no milestone. -/
theorem onReconnectDue_refused_marked (ha : m.ctl.reconnectAccepted = false) (h : Marked m₀ m) :
    Marked m₀ ((onReconnectDue c.journaled).run m).2 := by
  unfold onReconnectDue
  cases hr : m.ctl.timers.reconnect with
  | none =>
    simp only [StateT.run_bind, current_run, id_bind, pure_fst, pure_snd, hr]
    exact h
  | some pending =>
    obtain ⟨id, request⟩ := pending
    simp only [StateT.run_bind, current_run, id_bind, pure_fst, pure_snd, hr]
    have h₁ := updateTimers_marked (fun t => { t with reconnect := none }) (fun _ => rfl) h
    split
    · exact h₁
    · rename_i hs
      -- Still disconnected, so it is the request that is refused.
      have hacc : m.ctl.accepts request = false := by
        simpa [Controller.reconnectAccepted, hr, show m.ctl.status = .disconnected by simpa using hs]
          using ha
      simp only [StateT.run_bind, id_bind]
      have h₂ := connect_refused_marked c (by simpa [Controller.accepts] using hacc)
        (log_marked c .info "Attempting automatic reconnect" (.inr (by decide)) h₁)
      split
      · exact log_marked c _ _ (.inl (by decide)) h₂
      · simp only [StateT.run_pure, pure_snd]
        exact h₂

/-- Every event of the current generation writes its milestones as the handlers do, unless it is
the reconnect timer's event of an accepted reconnect, or a reading taken while Connected. -/
theorem dispatch_marked (kind : EventKind) (m : Machine (W × List Call))
    (ha : (kind.isReconnectDue && m.ctl.reconnectAccepted) = false)
    (hq : kind.reading = none ∨ m.ctl.status ≠ .connected) :
    Marked m ((dispatch c.journaled kind).run m).2 := by
  cases kind with
  | signalingOpened url result => exact onSignalingOpened_marked c url result (.refl m)
  | link event => exact onLinkEvent_marked c event (.refl m)
  | peer event => exact onPeerEvent_marked c event (.refl m)
  | engine event => exact onEngineEvent_marked c event (.refl m)
  | statsReport report =>
    refine onStatsReport_marked (hq.imp_left fun h => ?_) (.refl m)
    cases report with
    | none => rfl
    | some r => cases h
  | viewerCount result => exact onViewerCount_marked result (.refl m)
  | reconnectDue =>
    exact onReconnectDue_refused_marked c (by simpa [EventKind.isReconnectDue] using ha) (.refl m)

/-- A disconnect writes no milestone. -/
theorem disconnect_quiet (m : Machine (W × List Call)) :
    ∃ calls, ((disconnect c.journaled).run m).2.world.2 = m.world.2 ++ calls ∧
      calls.filterMap Call.milestone = [] := by
  rw [disconnect_world]
  split
  · exact ⟨teardownCalls m.ctl, by rw [journaled_teardown], teardownCalls_milestones _⟩
  · refine ⟨teardownCalls m.ctl ++ [.showOverlay (some disconnectedOverlay),
      .record ⟨.info, "Disconnected"⟩], ?_, ?_⟩
    · rw [journaled_record, journaled_showOverlay, journaled_teardown]
      simp
    · rw [List.filterMap_append, teardownCalls_milestones]
      rfl

/-- Dropping a stale event writes no milestone. -/
theorem discard_quiet (kind : EventKind) (w : W × List Call) :
    ∃ calls, (discard c.journaled kind w).2 = w.2 ++ calls ∧ calls.filterMap Call.milestone = [] := by
  unfold discard
  split
  · rename_i link
    exact ⟨[.dropLink link], by simp, rfl⟩
  · exact ⟨[], by simp, rfl⟩

/-! ## Beginning a session -/

/-- The info entry of a connect is not "Connected". -/
theorem connectingMessage_ne (request : ConnectRequest) :
    connectingMessage request ≠ "Connected" := by
  unfold connectingMessage
  simp only [String.append_assoc]
  exact append_ne_connected (by decide) _

/-- An accepted connect begins its session from a Connecting state of the next generation,
reached by calls that write no milestone. -/
theorem connect_begins (m : Machine (W × List Call)) (request : ConnectRequest)
    (ha : m.ctl.accepts request = true) :
    ∃ b : Machine (W × List Call), ∃ pre, b.world.2 = m.world.2 ++ pre ∧
      pre.filterMap Call.milestone = [] ∧ b.ctl.status = .connecting ∧
      b.ctl.generation = m.ctl.generation + 1 ∧ m.ctl.Forgets b.ctl ∧
      Marked b ((connect c.journaled request).run m).2 := by
  simp only [Controller.accepts, Bool.and_eq_true, bne_iff_ne, ne_eq] at ha
  obtain ⟨hv, hs⟩ := ha
  obtain ⟨valid, hvalid⟩ : ∃ valid, request.validated = .ok valid := by
    cases h : request.validated with
    | error field => simp [h, Except.isOk, Except.toBool] at hv
    | ok valid => exact ⟨valid, rfl⟩
  rw [connect_run_accepted _ hvalid hs]
  refine ⟨_, teardownCalls m.ctl ++ [.showOverlay (some connectingOverlay),
    .record ⟨.info, connectingMessage valid⟩], ?_, ?_, by simp [Controller.begun],
    Controller.begun_generation _ _, Controller.forgets_of_sampler (Controller.begun_sampler _ _),
    startTransport_marked c valid (.refl _)⟩
  · simp [release_after_cancelAll, journaled_teardown]
  · rw [List.filterMap_append, teardownCalls_milestones, List.nil_append, List.filterMap_cons,
      List.filterMap_cons, Call.milestone_record (.inr (connectingMessage_ne valid))]
    rfl

end Act

namespace Act

variable {W : Type} (c : Collaborators W)

/-- An accepted reconnect logs its attempt and connects to the pending request. -/
theorem onReconnectDue_run_accepted {m : Machine W} {id : Nat} {request : ConnectRequest}
    (hr : m.ctl.timers.reconnect = some (id, request)) (hs : m.ctl.status = .disconnected)
    (hv : request.validated = .ok request) :
    ((onReconnectDue c).run m).2 = ((connect c request).run
      ⟨{ m.ctl with timers := { m.ctl.timers with reconnect := none } }.logged .info
        "Attempting automatic reconnect",
      c.record ⟨.info, "Attempting automatic reconnect"⟩ m.world⟩).2 := by
  unfold onReconnectDue
  simp only [StateT.run_bind, current_run, id_bind, pure_fst, pure_snd, hr, updateTimers_run,
    hs, bne_self_eq_false, Bool.false_eq_true, if_false, log_run]
  rw [connect_run_accepted c hv (by simp)]
  rfl

end Act

namespace Machine

open Act Controller

variable {W : Type} (c : Collaborators W)

/-- An accepted reconnect logs its attempt and connects to the pending request, which begins a
session as a connect does. -/
theorem onReconnectDue_begins {m : Machine (W × List Call)} (h : Reachable c.journaled m)
    (hacc : m.ctl.reconnectAccepted = true) :
    ∃ b : Machine (W × List Call), ∃ pre, b.world.2 = m.world.2 ++ pre ∧
      pre.filterMap Call.milestone = [] ∧ b.ctl.status = .connecting ∧
      b.ctl.generation = m.ctl.generation + 1 ∧ m.ctl.Forgets b.ctl ∧
      Marked b ((onReconnectDue c.journaled).run m).2 := by
  obtain ⟨id, request, hslot⟩ : ∃ id request, m.ctl.timers.reconnect = some (id, request) := by
    cases hp : m.ctl.timers.reconnect with
    | none => simp [reconnectAccepted, hp] at hacc
    | some p => exact ⟨p.1, p.2, rfl⟩
  have hs : m.ctl.status = .disconnected ∧ m.ctl.accepts request = true := by
    simpa [reconnectAccepted, hslot] using hacc
  have hv := (reachable_requestsValidated _ h).reconnect id request hslot
  rw [onReconnectDue_run_accepted _ hslot hs.1 hv]
  -- The logged attempt writes no milestone and keeps the baseline and the session.
  obtain ⟨b, pre, hw, hq, hbs, hbg, hf, hm⟩ := connect_begins c ⟨{ m.ctl with
    timers := { m.ctl.timers with reconnect := none } }.logged .info
    "Attempting automatic reconnect", c.journaled.record ⟨.info,
    "Attempting automatic reconnect"⟩ m.world⟩ request
    (by simpa [Controller.accepts] using hs.2)
  exact ⟨b, [.record ⟨.info, "Attempting automatic reconnect"⟩] ++ pre, by rw [hw]; simp,
    by rw [List.filterMap_append, hq]; rfl, hbs, by rw [hbg]; rfl, hf, hm⟩

/-- How one turn of the loop, from `m` with `input` to `m'`, writes milestones and moves the
bitrate baseline. -/
inductive TurnMarks (m : Machine (W × List Call)) (input : Input) (m' : Machine (W × List Call)) :
    Prop
  /-- Within its generation, as the handlers write them. -/
  | carries : Marked m m' → m'.ctl.generation = m.ctl.generation → TurnMarks m input m'
  /-- None, as a disconnect settles the status on Idle or Disconnected and forgets the
  baseline. -/
  | settles (calls : List Call) : m'.world.2 = m.world.2 ++ calls →
      calls.filterMap Call.milestone = [] → m'.ctl.status = .idle ∨ m'.ctl.status = .disconnected →
      m.ctl.Forgets m'.ctl → TurnMarks m input m'
  /-- As the handlers write them from `b`, the Connecting state of the next generation, which
  calls with no milestone led to, forgetting the baseline. -/
  | begins (b : Machine (W × List Call)) (pre : List Call) : b.world.2 = m.world.2 ++ pre →
      pre.filterMap Call.milestone = [] → b.ctl.status = .connecting →
      b.ctl.generation = m.ctl.generation + 1 → m.ctl.Forgets b.ctl → Marked b m' →
      m'.ctl.generation = m.ctl.generation + 1 → TurnMarks m input m'
  /-- None, as the turn takes the reading `x` of the report `r` while Connected. -/
  | samples (x : Stats.Sample) (r : InboundReport) : m.takes input = some x →
      m.ctl.status = .connected → m' = ((onStatsReport (some r) : Act _ Unit).run m).2 →
      TurnMarks m input m'

namespace TurnMarks

variable {m m' : Machine (W × List Call)} {input : Input}

/-- A turn that begins a session writes what the begun session's handlers write. -/
theorem of_begins
    (h : ∃ b : Machine (W × List Call), ∃ pre, b.world.2 = m.world.2 ++ pre ∧
      pre.filterMap Call.milestone = [] ∧ b.ctl.status = .connecting ∧
      b.ctl.generation = m.ctl.generation + 1 ∧ m.ctl.Forgets b.ctl ∧ Marked b m')
    (hg : m'.ctl.generation = m.ctl.generation + 1) : TurnMarks m input m' := by
  obtain ⟨b, pre, hw, hq, hs, hbg, hf, hm⟩ := h
  exact .begins b pre hw hq hs hbg hf hm hg

/-- A disconnect, however it came, settles. -/
theorem of_disconnect (m : Machine (W × List Call)) :
    TurnMarks m input ((disconnect c.journaled).run m).2 := by
  obtain ⟨calls, hw, hq⟩ := disconnect_quiet c m
  refine .settles calls hw hq ?_ ?_ <;> rw [disconnect_ctl]
  · exact disconnected_status _
  · exact forgets_of_sampler (disconnected_sampler _)

/-- Stopping the loop settles. -/
theorem of_stop (m : Machine (W × List Call)) : TurnMarks m input ((stop c.journaled).run m).2 := by
  obtain ⟨calls, hw, hq⟩ := disconnect_quiet c m
  refine .settles calls (by simpa [stop] using hw) hq ?_ ?_ <;> rw [stop_ctl]
  · exact disconnected_status _
  · exact forgets_of_sampler (disconnected_sampler _)

end TurnMarks

/-- Every turn from a reachable state writes its milestones in one of the four ways. -/
theorem step_turnMarks {m : Machine (W × List Call)} (h : Reachable c.journaled m) (input : Input) :
    TurnMarks m input (m.step c.journaled input) := by
  by_cases hr : m.ctl.running = false
  · rw [step_stopped _ hr]
    exact .carries (.refl m) rfl
  have hr : m.ctl.running = true := by simpa using hr
  cases input with
  | command cmd =>
    -- A refused connect keeps the generation; an accepted one begins the next.
    have hconnect : ∀ request, TurnMarks m (.command cmd) ((connect c.journaled request).run m).2 := by
      intro request
      cases ha : m.ctl.accepts request
      · refine .carries (connect_refused_marked c ha (.refl m)) ?_
        rw [connect_generation, ha]
        rfl
      · refine .of_begins (connect_begins c m request ha) ?_
        rw [connect_generation, ha]
        rfl
    cases cmd with
    | toggle =>
      by_cases hs : m.ctl.status.isRestartable = true
      · simp only [step, handleCommand_toggle_restartable _ hr hs]
        exact hconnect _
      · simp only [step, handleCommand, current_run, hr, StateT.run_bind, id_bind, pure_fst,
          pure_snd, Bool.not_true, Bool.false_eq_true, if_false, hs, StateT.run_pure]
        exact .of_disconnect c m
    | connect request =>
      simp only [step, handleCommand_connect _ hr]
      exact hconnect request
    | disconnect =>
      simp only [step, handleCommand, current_run, hr, StateT.run_bind, id_bind, pure_fst,
        pure_snd, Bool.not_true, Bool.false_eq_true, if_false, StateT.run_pure]
      exact .of_disconnect c m
    | playback event =>
      simp only [step, handleCommand, current_run, hr, StateT.run_bind, id_bind, pure_fst,
        pure_snd, Bool.not_true, Bool.false_eq_true, if_false, StateT.run_pure]
      refine .carries (handlePlayback_marked c event (.refl m)) ?_
      rw [handlePlayback_ctl]
      split <;> rfl
    | shutdown =>
      rw [step_ending _ hr (.inr rfl)]
      exact .of_stop c m
  | deliver e =>
    simp only [step, hr, if_true]
    by_cases hg : e.generation = m.ctl.generation
    · rw [handleEvent_current _ hg]
      by_cases hd : (e.kind.isReconnectDue && m.ctl.reconnectAccepted) = true
      · simp only [Bool.and_eq_true] at hd
        obtain ⟨hdue, hacc⟩ := hd
        have hgen := dispatch_generation c.journaled e.kind m
        rw [hdue, hacc] at hgen
        rw [dispatch_of_isReconnectDue _ hdue] at hgen ⊢
        exact .of_begins (onReconnectDue_begins c h hacc) hgen
      · have hd : (e.kind.isReconnectDue && m.ctl.reconnectAccepted) = false := by simpa using hd
        by_cases hq : e.kind.reading = none ∨ m.ctl.status ≠ .connected
        · refine .carries (dispatch_marked c e.kind m hd hq) ?_
          rw [dispatch_generation, hd]
          rfl
        · -- A reading taken while Connected.
          obtain ⟨x, hx⟩ := Option.ne_none_iff_exists'.1 (not_or.1 hq).1
          have hs : m.ctl.status = .connected := by simpa using (not_or.1 hq).2
          obtain ⟨r, hk, -⟩ := EventKind.reading_eq_some.1 hx
          refine .samples x r (by simp [takes, hr, hg, hs, hx]) hs ?_
          rw [hk]
          rfl
    · -- A stale event at most gives up the link it brought.
      rw [handleEvent_stale _ hg]
      obtain ⟨calls, hw, hq⟩ := discard_quiet c e.kind m.world
      exact .carries ((Marked.refl m).extend calls hw hq rfl rfl ⟨rfl, id⟩) rfl
  | hangUp =>
    rw [step_ending _ hr (.inl rfl)]
    exact .of_stop c m

end Machine

/-! ## "Connected" once per generation -/

/-- How many times the calls log "Connected". -/
def Call.timesConnected (calls : List Call) : Nat :=
  (calls.filterMap Call.milestone).count .connected

@[simp] theorem Call.timesConnected_append (xs ys : List Call) :
    Call.timesConnected (xs ++ ys) = Call.timesConnected xs + Call.timesConnected ys := by
  simp [Call.timesConnected, List.filterMap_append, List.count_append]

namespace Machine

open Controller

variable {W : Type} (c : Collaborators W)

/-- The generations in which a run from `m` logs "Connected", once for each time it does: a turn
adds the generation it ends in as often as it logged the entry. Within a turn the generation
changes only as a session begins, before anything of the new session is logged. -/
def connectedLog (m : Machine (W × List Call)) : List Input → List Nat
  | [] => []
  | input :: inputs =>
    let m' := m.step c.journaled input
    List.replicate (Call.timesConnected m'.world.2 - Call.timesConnected m.world.2)
      m'.ctl.generation ++ connectedLog m' inputs

namespace TurnMarks

variable {m m' : Machine (W × List Call)} {input : Input}

/-- A turn logs "Connected" at most once, and then leaves Connecting; a turn that keeps the
generation and logs it, or ends Connecting, began Connecting. -/
theorem connected (h : TurnMarks m input m') :
    ∃ calls, m'.world.2 = m.world.2 ++ calls ∧ Call.timesConnected calls ≤ 1 ∧
      (Call.timesConnected calls = 1 → m'.ctl.status ≠ .connecting) ∧
      (m'.ctl.generation = m.ctl.generation →
        Call.timesConnected calls = 1 ∨ m'.ctl.status = .connecting → m.ctl.status = .connecting) := by
  cases h with
  | carries hm hg =>
    obtain ⟨calls, hw, hmarks⟩ := hm
    refine ⟨calls, hw, ?_⟩
    rcases hmarks.connected with ⟨h0, hc⟩ | ⟨h1, hs, hs'⟩
    · have h0' : Call.timesConnected calls = 0 := h0
      refine ⟨by omega, fun h => by omega, fun _ hc' => ?_⟩
      rcases hc' with h | h
      · omega
      · exact hc h
    · have h1' : Call.timesConnected calls = 1 := h1
      exact ⟨by omega, fun _ => hs', fun _ _ => hs⟩
  | settles calls hw hq hs _ =>
    have h0 : Call.timesConnected calls = 0 := by simp [Call.timesConnected, hq]
    refine ⟨calls, hw, by omega, fun h1 => by omega, fun _ hc => ?_⟩
    rcases hc with hc | hc
    · omega
    · rcases hs with hs | hs <;> simp [hs] at hc
  | begins b pre hw hq hbs hbg _ hm hg =>
    obtain ⟨calls, hw', hmarks⟩ := hm
    have hpre : Call.timesConnected pre = 0 := by simp [Call.timesConnected, hq]
    refine ⟨pre ++ calls, by rw [hw', hw, List.append_assoc], ?_, ?_, fun hg' => by omega⟩
    all_goals
      rw [Call.timesConnected_append, hpre, Nat.zero_add]
      rcases hmarks.connected with ⟨h0, -⟩ | ⟨h1, -, hs'⟩
    · simp [Call.timesConnected, h0]
    · simp [Call.timesConnected, h1]
    · intro h1
      simp [Call.timesConnected, h0] at h1
    · exact fun _ => hs'
  | samples x r _ hs hm =>
    -- A reading writes nothing and keeps the status.
    subst hm
    rw [Act.onStatsReport_run_connected hs]
    refine ⟨[], by simp, by simp [Call.timesConnected], fun h => by simp [Call.timesConnected] at h,
      fun _ hc => ?_⟩
    rcases hc with hc | hc
    · simp [Call.timesConnected] at hc
    · exact hc

end TurnMarks

/-- What the generations `G` logged "Connected" in so far say of the state `m` a run reached:
none twice, none ahead of the current one, and not the current one while still Connecting. -/
structure ConnectedOnce (m : Machine (W × List Call)) (G : List Nat) : Prop where
  nodup : G.Nodup
  le : ∀ g ∈ G, g ≤ m.ctl.generation
  connecting : m.ctl.status = .connecting → m.ctl.generation ∉ G

theorem ConnectedOnce.start (config : ViewerConfig) (world : W) :
    ConnectedOnce (start config (world, [])) [] :=
  ⟨List.nodup_nil, by simp, by simp⟩

/-- One turn keeps the generations logged "Connected" in distinct. -/
theorem ConnectedOnce.step {m : Machine (W × List Call)} {G : List Nat}
    (h : Reachable c.journaled m) (hG : ConnectedOnce m G) (input : Input) :
    ConnectedOnce (m.step c.journaled input)
      (G ++ List.replicate (Call.timesConnected (m.step c.journaled input).world.2 -
        Call.timesConnected m.world.2) (m.step c.journaled input).ctl.generation) := by
  obtain ⟨calls, hw, hle, hone, hsame⟩ := (step_turnMarks c h input).connected
  have hgen := step_generation c.journaled m input
  set m' := m.step c.journaled input
  have hn : Call.timesConnected m'.world.2 - Call.timesConnected m.world.2 =
      Call.timesConnected calls := by
    rw [hw, Call.timesConnected_append]
    omega
  rw [hn]
  -- The generation stays, or moves to one past every generation logged so far.
  have hfresh : m'.ctl.generation ≠ m.ctl.generation → m'.ctl.generation ∉ G := by
    intro hne hmem
    have := hG.le _ hmem
    split at hgen <;> omega
  have hup : m.ctl.generation ≤ m'.ctl.generation := by
    split at hgen <;> omega
  rcases Nat.le_one_iff_eq_zero_or_eq_one.1 hle with h0 | h1
  · rw [h0, List.replicate_zero, List.append_nil]
    refine ⟨hG.nodup, fun g hg => (hG.le g hg).trans hup, fun hc => ?_⟩
    by_cases hg : m'.ctl.generation = m.ctl.generation
    · rw [hg]
      exact hG.connecting (hsame hg (.inr hc))
    · exact hfresh hg
  · rw [h1]
    have hnew : m'.ctl.generation ∉ G := by
      by_cases hg : m'.ctl.generation = m.ctl.generation
      · rw [hg]
        exact hG.connecting (hsame hg (.inl h1))
      · exact hfresh hg
    refine ⟨?_, fun g hg => ?_, fun hc => absurd hc (hone h1)⟩
    · rw [List.replicate_one]
      refine List.nodup_append.2 ⟨hG.nodup, List.nodup_cons.2 ⟨List.not_mem_nil, List.nodup_nil⟩, ?_⟩
      intro a ha b hb hab
      rw [List.mem_singleton] at hb
      exact hnew (hb ▸ hab ▸ ha)
    · rcases List.mem_append.1 hg with hg | hg
      · exact (hG.le g hg).trans hup
      · simp at hg
        omega

/-- Along a run the generations logged "Connected" in stay distinct. -/
theorem ConnectedOnce.run {m : Machine (W × List Call)} {G : List Nat}
    (h : Reachable c.journaled m) (hG : ConnectedOnce m G) (inputs : List Input) :
    (G ++ connectedLog c m inputs).Nodup := by
  induction inputs generalizing m G with
  | nil => simpa [connectedLog] using hG.nodup
  | cons input inputs ih =>
    rw [connectedLog, ← List.append_assoc]
    exact ih (h.step input) (hG.step c h input)

/-- The status follows the session lifecycle, and "Connected" is logged at most once per
generation. From every reachable state, a turn that begins a session (an accepted connect, toggle
or reconnect) goes from a status other than Connecting to Connecting together with the next
generation, and the start of its transport then leaves it Connecting, Connected by a playlist the
surface plays itself, or Disconnected by a setup failure; every other turn moves the status only
as `StatusMove` allows: Connecting to Connected on a success of the current generation, to
Disconnected on a failure that can end it, and a live session to Disconnected by a disconnect.
Once the status left Idle it never returns there. Along every run from a fresh controller, the
"Connected" entries that reach the log sink belong to distinct generations. -/
theorem status_lifecycle :
    (∀ m : Machine W, Reachable c m →
      (∀ input, StatusTurn c m input) ∧
      ∀ inputs, m.ctl.status ≠ .idle → (m.run c inputs).ctl.status ≠ .idle) ∧
    ∀ config world inputs, (connectedLog c (start config (world, [])) inputs).Nodup := by
  refine ⟨fun m h => ⟨reachable_statusTurn c h, fun inputs hs => run_status_ne_idle c h inputs hs⟩,
    fun config world inputs => ?_⟩
  simpa using ConnectedOnce.run c (.start config (world, [])) (.start config world) inputs

/-- In the recording world, every turn from a fresh controller moves its status as the lifecycle
allows. -/
theorem start_status_lifecycle :
    let c := Scenario.World.collaborators true true
    Reachable c (start default {}) ∧ ∀ input, StatusTurn c (start default {}) input :=
  ⟨.start _ _, ((status_lifecycle _).1 _ (.start _ _)).1⟩

end Machine

end LiveViewer
