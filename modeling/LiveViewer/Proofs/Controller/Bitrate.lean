import LiveViewer.Proofs.Controller.Milestones

/-!
# The bitrate of consecutive readings

A sampler keeps the last reading it took and gives, for the next, the bitrate between the two.
`Stats.Sampler.sample_after` states this of a sampler on its own, after any sequence of samples
and resets: a sample gives no bitrate when none was taken since the last reset, and otherwise the
bitrate from the last one taken; either way it becomes the baseline.

In the controller the sampler is reset when the stats timer starts and when a session is
released, and it takes a reading only from a stats report of the current generation that arrives
while Connected (`Machine.takes`); any other stats report changes nothing at all. Along a run from
a fresh controller in which the producers deliver the events, `Machine.readings` lists the
readings taken, each with the bitrate published with it. The baseline follows them
(`Machine.Tracks`): outside Connected there is none, and while Connected it is the last reading of
the current generation. The reason is in the journal. A stats report is delivered only by a stats
timer started in its generation, and no stats timer of a generation is started while its session
is unsampled (`Machine.SamplingDated`), so every reading is taken while the stats timer runs, after
the timer's start has reset the sampler. The bitrates published for the readings of a generation
are therefore none for the first and, for each later one, the bitrate from the reading before it
(`Machine.bitrate_consecutive`). Whether the producers deliver the events of given inputs is
decided by running them (`Machine.decidableDelivers`).
-/

namespace LiveViewer

namespace Stats

/-- The bitrates of consecutive samples: none for the first, then for each later one the
bitrate from the sample before it. -/
def pairwiseBitrates : List Sample → List (Option UInt32)
  | [] => []
  | x :: xs => none :: List.zipWith bitrateKbps (x :: xs) xs

/-- A new last sample is paired with the old last one. -/
theorem zipWith_bitrateKbps_append (x₀ : Sample) (xs : List Sample) (x : Sample) :
    List.zipWith bitrateKbps (x₀ :: xs ++ [x]) (xs ++ [x]) =
      List.zipWith bitrateKbps (x₀ :: xs) xs ++
        [bitrateKbps ((x₀ :: xs).getLast (List.cons_ne_nil _ _)) x] := by
  induction xs generalizing x₀ with
  | nil => rfl
  | cons y ys ih => simpa using ih y

/-- A new last sample adds the bitrate from the old last one, or none when there was none. -/
theorem pairwiseBitrates_append (xs : List Sample) (x : Sample) :
    pairwiseBitrates (xs ++ [x]) =
      pairwiseBitrates xs ++ [xs.getLast?.bind fun p => bitrateKbps p x] := by
  cases xs with
  | nil => rfl
  | cons x₀ xs =>
    simp only [List.cons_append, pairwiseBitrates]
    rw [← List.cons_append, zipWith_bitrateKbps_append, List.getLast?_eq_some_getLast (List.cons_ne_nil _ _)]
    rfl

namespace Sampler

/-- What a sampler is asked to do. -/
inductive Action where
  | sample (x : Sample)
  | reset

/-- The sampler after an action. -/
def apply (s : Sampler) : Action → Sampler
  | .sample x => (s.sample x).2
  | .reset => s.reset

/-- The samples taken since the last reset, after one more action. -/
def sinceReset (xs : List Sample) : Action → List Sample
  | .sample x => xs ++ [x]
  | .reset => []

/-- The sampler holds the last sample taken since the last reset. -/
theorem foldl_apply_prev (actions : List Action) (s : Sampler) (xs : List Sample)
    (h : s.prev = xs.getLast?) :
    (actions.foldl apply s).prev = (actions.foldl sinceReset xs).getLast? := by
  induction actions generalizing s xs with
  | nil => exact h
  | cons a actions ih =>
    apply ih
    cases a with
    | sample x => simp [apply, sinceReset, sample]
    | reset => simp [apply, sinceReset, reset]

/-- After any sequence of samples and resets from a fresh sampler, a sample gives no bitrate when
no sample was taken since the last reset, and otherwise the bitrate from the last one taken; and
it becomes the baseline. -/
theorem sample_after (actions : List Action) (x : Sample) :
    ((actions.foldl apply {}).sample x).1 =
        (actions.foldl sinceReset []).getLast?.bind (fun p => bitrateKbps p x) ∧
      ((actions.foldl apply {}).sample x).2.prev = some x :=
  ⟨by simp only [sample]; rw [foldl_apply_prev actions {} [] rfl], sample_prev _ _⟩

end Sampler

/-- A reading the controller took: its generation, its sample, and the bitrate published with
it. -/
structure Reading where
  generation : Nat
  sample : Sample
  bitrateKbps : Option UInt32

namespace Reading

/-- The samples of the readings of generation `g`, in order. -/
def samples (log : List Reading) (g : Nat) : List Sample :=
  (log.filter (·.generation == g)).map (·.sample)

/-- The bitrates published with the readings of generation `g`, in order. -/
def bitrates (log : List Reading) (g : Nat) : List (Option UInt32) :=
  (log.filter (·.generation == g)).map (·.bitrateKbps)

theorem samples_append_singleton (log : List Reading) (r : Reading) (g : Nat) :
    samples (log ++ [r]) g = samples log g ++ if r.generation = g then [r.sample] else [] := by
  by_cases h : r.generation = g <;> simp [samples, h]

theorem bitrates_append_singleton (log : List Reading) (r : Reading) (g : Nat) :
    bitrates (log ++ [r]) g = bitrates log g ++ if r.generation = g then [r.bitrateKbps] else [] := by
  by_cases h : r.generation = g <;> simp [bitrates, h]

/-- In every generation, the bitrate published with a reading is the one from the reading
before it, none for the first. -/
def Consecutive (log : List Reading) : Prop :=
  ∀ g, bitrates log g = pairwiseBitrates (samples log g)

theorem Consecutive.nil : Consecutive [] := fun _ => rfl

/-- A reading published with the bitrate from the last reading of its generation keeps the
readings consecutive. -/
theorem Consecutive.snoc {log : List Reading} (h : Consecutive log) (r : Reading)
    (hr : r.bitrateKbps =
      (samples log r.generation).getLast?.bind fun p => Stats.bitrateKbps p r.sample) :
    Consecutive (log ++ [r]) := by
  intro g
  rw [bitrates_append_singleton, samples_append_singleton]
  by_cases hg : r.generation = g
  · subst hg
    rw [if_pos rfl, if_pos rfl, pairwiseBitrates_append, h, hr]
  · rw [if_neg hg, if_neg hg, List.append_nil, List.append_nil]
    exact h g

end Reading

end Stats

open Stats

/-- A stats report is delivered only by a stats timer started in its generation. -/
theorem Machine.Deliverable.sampling {calls : List Call} {delivered : List SessionEvent}
    {e : SessionEvent} (he : Machine.Deliverable calls delivered e) {report : Option InboundReport}
    (hk : e.kind = .statsReport report) :
    Milestone.sampling e.generation ∈ calls.filterMap Call.milestone := by
  obtain ⟨p, task, hcall, hrep⟩ := he.started
  rw [hk] at hrep
  cases p with
  | statsTimer peer period => exact List.mem_filterMap.2 ⟨_, hcall, rfl⟩
  | _ => simp [Producer.Reports] at hrep

/-- A call that starts a stats timer starts it in its generation. -/
theorem Call.startedIn_of_sampling {x : Call} {g : Nat} (h : x.milestone = some (.sampling g)) :
    x.startedIn = some g := by
  cases x with
  | spawn g' p task => cases p <;> simp_all
  | record entry =>
    -- A log entry is no stats timer.
    obtain ⟨level, message⟩ := entry
    by_cases hl : level = .info ∧ message = "Connected"
    · obtain ⟨rfl, rfl⟩ := hl
      simp at h
    · rw [Call.milestone_record (not_and_or.1 hl)] at h
      cases h
  | _ => simp at h

namespace Controller.Marks

variable {k k' : Controller} {ms : List Milestone}

/-- Handler code that starts without a baseline ends without one. -/
theorem prev_eq_none (h : Marks k k' ms) (hp : k.sampler.prev = none) : k'.sampler.prev = none := by
  rcases h.baseline with ⟨hp', -⟩ | ⟨hn, -⟩
  · rw [hp', hp]
  · exact hn

/-- Leaving Connected between consistent controllers forgets the baseline: the session was
released on the way. -/
theorem prev_of_leaving (h : Marks k k' ms) (hk : k.Consistent) (hk' : k'.Consistent)
    (hs : k.status = .connected) (hs' : k'.status ≠ .connected) : k'.sampler.prev = none := by
  have hsome : k.session.isSome := hk.session_iff.2 (.inr hs)
  have hc' : k'.status ≠ .connecting := by
    rcases h.connected with ⟨-, hc⟩ | ⟨-, -, hc⟩
    · intro h'
      rw [hc h'] at hs
      cases hs
    · exact hc
  have hnone : k'.session = none := by
    rw [← Option.not_isSome_iff_eq_none, hk'.session_iff]
    rintro (h' | h')
    · exact hc' h'
    · exact hs' h'
  rcases h.baseline with ⟨-, hss⟩ | ⟨hn, -⟩
  · simp [hss hnone] at hsome
  · exact hn

end Controller.Marks

namespace Machine

variable {W : Type} (c : Collaborators W)

/-- The reading a turn from `m` takes, with the bitrate the turn publishes. -/
def reading (m : Machine W) (input : Input) : Option Reading :=
  (m.takes input).map fun x => ⟨m.ctl.generation, x, (m.step c input).ctl.published.stats.bitrateKbps⟩

/-- The readings a run from `m` takes, in order. -/
def readings (m : Machine W) : List Input → List Reading
  | [] => []
  | input :: inputs => (m.reading c input).toList ++ readings (m.step c input) inputs

/-- Each event among `inputs` can be delivered when its turn comes, in a run from `m` after the
deliveries `delivered`. -/
def Delivers : Machine (W × List Call) → List SessionEvent → List Input → Prop
  | _, _, [] => True
  | m, delivered, .command cmd :: inputs => Delivers (m.step c.journaled (.command cmd)) delivered inputs
  | m, delivered, .deliver e :: inputs =>
    Deliverable m.world.2 delivered e ∧ Delivers (m.step c.journaled (.deliver e)) (delivered ++ [e]) inputs
  | m, delivered, .hangUp :: inputs => Delivers (m.step c.journaled .hangUp) delivered inputs

/-- Whether the producers deliver the events of a run is decided by running it. -/
instance decidableDelivers : (m : Machine (W × List Call)) → (delivered : List SessionEvent) →
    (inputs : List Input) → Decidable (Delivers c m delivered inputs)
  | _, _, [] => .isTrue trivial
  | m, delivered, .command cmd :: inputs =>
    decidableDelivers (m.step c.journaled (.command cmd)) delivered inputs
  | m, delivered, .deliver e :: inputs =>
    haveI := decidableDelivers (m.step c.journaled (.deliver e)) (delivered ++ [e]) inputs
    instDecidableAnd
  | m, delivered, .hangUp :: inputs => decidableDelivers (m.step c.journaled .hangUp) delivered inputs

/-- A turn takes a reading only from a stats report of the current generation, delivered to a
running controller that is Connected; the turn is then that report's handler. -/
theorem step_of_takes {m : Machine W} {input : Input} {x : Sample} (h : m.takes input = some x) :
    ∃ e r, input = .deliver e ∧ e.generation = m.ctl.generation ∧ e.kind = .statsReport (some r) ∧
      x = ⟨r.bytesReceived, r.timestampMs⟩ ∧ m.ctl.status = .connected ∧
      m.step c input = ((Act.onStatsReport (some r) : Act W Unit).run m).2 := by
  cases input with
  | deliver e =>
    simp only [takes] at h
    split at h
    · rename_i hc
      obtain ⟨hr, hg, hs⟩ := hc
      obtain ⟨r, hk, hx⟩ := EventKind.reading_eq_some.1 h
      refine ⟨e, r, rfl, hg, hk, hx, hs, ?_⟩
      simp only [step, hr, if_true]
      rw [Act.handleEvent_current c hg, hk]
      rfl
    · cases h
  | command cmd => cases h
  | hangUp => cases h

/-- A stats report without a reading, of another generation, or arriving while not Connected
changes nothing at all. -/
theorem step_report_ignored (m : Machine W) (g : Nat) (report : Option InboundReport)
    (h : report = none ∨ g ≠ m.ctl.generation ∨ m.ctl.status ≠ .connected) :
    m.step c (.deliver ⟨g, .statsReport report⟩) = m := by
  simp only [step]
  split
  · by_cases hg : g = m.ctl.generation
    · rw [Act.handleEvent_current c hg]
      have hq : report = none ∨ m.ctl.status ≠ .connected := by
        rcases h with h | h | h
        · exact .inl h
        · exact absurd hg h
        · exact .inr h
      exact Act.onStatsReport_run_ignored hq
    · rw [Act.handleEvent_stale c hg]
      rfl
  · rfl

/-! ## Stats timers in the journal -/

/-- The stats timers the journal of `m` shows started: none in a later generation, and none in
the current one while the session is unsampled. -/
structure SamplingDated (m : Machine (W × List Call)) : Prop where
  dated : ∀ g, Milestone.sampling g ∈ m.world.2.filterMap Call.milestone → g ≤ m.ctl.generation
  unsampled : m.ctl.Unsampled →
    Milestone.sampling m.ctl.generation ∉ m.world.2.filterMap Call.milestone

variable {c}

/-- One turn keeps the stats timers dated: those it starts are of the generation it ends in, and
an unsampled session at its end started none, before or during the turn. -/
theorem SamplingDated.step {m : Machine (W × List Call)} (h : Reachable c.journaled m)
    (hd : SamplingDated m) (input : Input) : SamplingDated (m.step c.journaled input) where
  dated g hg := by
    obtain ⟨calls, hw, hc⟩ := step_tagged c m input
    have hle : m.ctl.generation ≤ (m.step c.journaled input).ctl.generation := by
      rw [step_generation]
      omega
    rw [hw, List.filterMap_append, List.mem_append] at hg
    rcases hg with hg | hg
    · exact (hd.dated g hg).trans hle
    · obtain ⟨x, hx, hm⟩ := List.mem_filterMap.1 hg
      exact Nat.le_of_eq (hc g (List.mem_filterMap.2 ⟨x, hx, Call.startedIn_of_sampling hm⟩))
  unsampled hu := by
    cases step_turnMarks c h input with
    | carries hm hg =>
      obtain ⟨calls, hw, hmk⟩ := hm
      obtain ⟨hu₀, hn⟩ := hmk.sampling hu
      rw [hw, hg, List.filterMap_append, List.mem_append]
      rintro (hin | hin)
      · exact hd.unsampled hu₀ hin
      · exact hn _ hin
    | settles calls _ _ hs _ =>
      unfold Controller.Unsampled at hu
      rcases hs with hs | hs <;> simp [hs] at hu
    | begins b pre hw hq _ _ _ hm hg =>
      obtain ⟨calls, hw', hmk⟩ := hm
      have hn := (hmk.sampling hu).2
      rw [hw', hw, hg, List.filterMap_append, List.filterMap_append, hq, List.append_nil,
        List.mem_append]
      rintro (hin | hin)
      · -- The journal before the turn has no stats timer of the next generation.
        have := hd.dated _ hin
        omega
      · exact hn _ hin
    | samples x r _ hs hm =>
      rw [hm, Act.onStatsReport_run_connected hs] at hu ⊢
      exact hd.unsampled hu

/-- Every state of a faithful run has its stats timers dated. -/
theorem Faithful.samplingDated {m : Machine (W × List Call)} {delivered : List SessionEvent}
    (h : Faithful c m delivered) : SamplingDated m := by
  induction h with
  | start config world => exact ⟨by simp [Machine.start], by simp [Machine.start]⟩
  | command cmd hf ih => exact ih.step hf.reachable _
  | hangUp hf ih => exact ih.step hf.reachable _
  | deliver e hf _ ih => exact ih.step hf.reachable _

/-- A reading is only taken while the stats timer runs: a report of the current generation
comes from a stats timer of the generation, and none is started while the session is
unsampled. -/
theorem Faithful.takes_timed {m : Machine (W × List Call)} {delivered : List SessionEvent}
    (hf : Faithful c m delivered) {e : SessionEvent} (he : Deliverable m.world.2 delivered e)
    {x : Sample} (ht : m.takes (.deliver e) = some x) : m.ctl.timers.stats.isSome := by
  obtain ⟨e', r, he', hg, hk, -, hs, -⟩ := step_of_takes c.journaled ht
  cases he'
  have hin := he.sampling hk
  rw [hg] at hin
  cases hstats : m.ctl.timers.stats with
  | some id => rfl
  | none => exact absurd hin (hf.samplingDated.unsampled (.inr ⟨hs, hstats⟩))

/-! ## The baseline along a faithful run -/

/-- What a state keeps of the readings `log` taken before it. -/
structure Tracks (m : Machine (W × List Call)) (log : List Reading) : Prop where
  /-- Outside Connected there is no baseline. -/
  idle : m.ctl.status ≠ .connected → m.ctl.sampler.prev = none
  /-- While Connected, the baseline is the last reading of the current generation. -/
  baseline : m.ctl.status = .connected →
    m.ctl.sampler.prev = (Reading.samples log m.ctl.generation).getLast?
  /-- Every reading was taken in a generation that started a stats timer. -/
  timed : ∀ r ∈ log, Milestone.sampling r.generation ∈ m.world.2.filterMap Call.milestone

namespace Tracks

variable {m : Machine (W × List Call)} {log : List Reading}

theorem start (config : ViewerConfig) (world : W) : Tracks (start config (world, [])) [] where
  idle _ := rfl
  baseline h := by simp [Machine.start, Controller.start] at h
  timed _ h := by simp at h

/-- No reading of the current generation was taken while the session is unsampled. -/
theorem fresh (h : Tracks m log) (hd : SamplingDated m) (hu : m.ctl.Unsampled) :
    Reading.samples log m.ctl.generation = [] := by
  rw [Reading.samples, List.map_eq_nil_iff, List.filter_eq_nil_iff]
  intro r hr hg
  simp only [beq_iff_eq] at hg
  exact hd.unsampled hu (hg ▸ h.timed r hr)

/-- No reading of a later generation was taken. -/
theorem ahead (h : Tracks m log) (hd : SamplingDated m) :
    Reading.samples log (m.ctl.generation + 1) = [] := by
  rw [Reading.samples, List.map_eq_nil_iff, List.filter_eq_nil_iff]
  intro r hr hg
  simp only [beq_iff_eq] at hg
  have := hd.dated _ (h.timed r hr)
  omega

variable (c) in
/-- The journal only grows, so the readings stay timed. -/
theorem timed_step (h : Tracks m log) (input : Input) :
    ∀ r ∈ log, Milestone.sampling r.generation ∈
      (m.step c.journaled input).world.2.filterMap Call.milestone := by
  obtain ⟨calls, hw, -⟩ := step_tagged c m input
  intro r hr
  rw [hw, List.filterMap_append]
  exact List.mem_append_left _ (h.timed r hr)

/-- Where the baseline was forgotten, there is none. -/
theorem forgets (h : Tracks m log) (hk : m.ctl.Consistent) {k' : Controller}
    (hf : m.ctl.Forgets k') : k'.sampler.prev = none := by
  rcases hf with hn | ⟨hp, hs⟩
  · exact hn
  · -- Without a session the status is not Connected.
    rw [hp]
    exact h.idle fun hc => by simpa [hs] using hk.session_iff.2 (.inr hc)

/-- Handler code within the generation leaves no baseline outside Connected. -/
theorem idle_of_marks (h : Tracks m log) (hk : m.ctl.Consistent) {k' : Controller}
    (hk' : k'.Consistent) {ms : List Milestone} (hmk : m.ctl.Marks k' ms)
    (hs' : k'.status ≠ .connected) : k'.sampler.prev = none := by
  by_cases hs : m.ctl.status = .connected
  · exact hmk.prev_of_leaving hk hk' hs hs'
  · rcases hmk.baseline with ⟨hp, -⟩ | ⟨hn, -⟩
    · rw [hp]
      exact h.idle hs
    · exact hn

/-- Handler code within the generation leaves a Connected session with the last reading of the
generation as its baseline. -/
theorem baseline_of_marks (h : Tracks m log) (hd : SamplingDated m) {k' : Controller}
    {ms : List Milestone} (hmk : m.ctl.Marks k' ms) (hs' : k'.status = .connected) :
    k'.sampler.prev = (Reading.samples log m.ctl.generation).getLast? := by
  rcases hmk.live hs' with hc | hc
  · -- Connecting at the start: no baseline, and no reading of the generation yet.
    have hnil := h.fresh hd (.inl hc)
    have hprev := h.idle (by rw [hc]; decide)
    rcases hmk.baseline with ⟨hp, -⟩ | ⟨hn, -⟩
    · rw [hp, hprev, hnil]
      rfl
    · rw [hn, hnil]
      rfl
  · rcases hmk.baseline with ⟨hp, -⟩ | ⟨hn, ho⟩
    · rw [hp]
      exact h.baseline hc
    · rcases ho with ho | hu
      · exact absurd hs' ho
      · rw [hn, h.fresh hd hu]
        rfl

/-- A turn that takes no reading keeps the baseline on the readings: it keeps it, or forgets it
as the session leaves Connected, begins anew, or is still unsampled. -/
theorem pass {input : Input} (hR : Reachable c.journaled m) (hd : SamplingDated m)
    (h : Tracks m log) (ht : m.takes input = none) : Tracks (m.step c.journaled input) log := by
  have hk := reachable_consistent _ hR
  have hk' := reachable_consistent _ (hR.step input)
  have htimed := h.timed_step c input
  cases step_turnMarks c hR input with
  | carries hm hg =>
    obtain ⟨calls, -, hmk⟩ := hm
    refine ⟨h.idle_of_marks hk hk' hmk, fun hs' => ?_, htimed⟩
    rw [hg]
    exact h.baseline_of_marks hd hmk hs'
  | settles calls _ _ hs hf =>
    refine ⟨fun _ => h.forgets hk hf, fun hs' => ?_, htimed⟩
    rcases hs with hs | hs <;> simp [hs] at hs'
  | begins b pre _ _ _ _ hf hm hg =>
    obtain ⟨calls, -, hmk⟩ := hm
    -- The begun session starts without a baseline, and no reading of its generation was taken.
    have hprev := hmk.prev_eq_none (h.forgets hk hf)
    refine ⟨fun _ => hprev, fun _ => ?_, htimed⟩
    rw [hprev, hg, h.ahead hd]
    rfl
  | samples x r hx _ _ =>
    rw [ht] at hx
    cases hx

variable (c) in
/-- The bitrate a turn publishes with its reading is the one from the last reading of the
generation. -/
theorem reading_eq {input : Input} {x : Sample} (h : Tracks m log) (ht : m.takes input = some x) :
    m.reading c.journaled input = some ⟨m.ctl.generation, x,
      (Reading.samples log m.ctl.generation).getLast?.bind fun p => bitrateKbps p x⟩ := by
  obtain ⟨e, r, -, -, -, rfl, hs, hstep⟩ := step_of_takes c.journaled ht
  simp only [reading, ht, Option.map_some, hstep, Act.onStatsReport_run_connected hs,
    Controller.publishNow, Controller.snapshot, Sampler.sample, h.baseline hs]

/-- A turn that takes a reading makes it the baseline. -/
theorem take {input : Input} {delivered : List SessionEvent} (h : Tracks m log)
    (he : ∀ e, input = .deliver e → Deliverable m.world.2 delivered e) {x : Sample}
    (ht : m.takes input = some x) :
    Tracks (m.step c.journaled input) (log ++ (m.reading c.journaled input).toList) := by
  have hr := h.reading_eq c ht
  obtain ⟨e, r, rfl, hg, hk, rfl, hs, hstep⟩ := step_of_takes c.journaled ht
  rw [hr, hstep, Act.onStatsReport_run_connected hs]
  refine ⟨fun h' => absurd hs h', fun _ => ?_, fun r' hr' => ?_⟩
  · simp [Reading.samples_append_singleton, Sampler.sample]
  · rcases List.mem_append.1 hr' with hr' | hr'
    · exact h.timed r' hr'
    · -- The report came from a stats timer of its generation.
      rw [Option.toList_some, List.mem_singleton] at hr'
      subst hr'
      rw [← hg]
      exact (he _ rfl).sampling hk

/-- One turn of a faithful run keeps the baseline on the readings. -/
theorem step {delivered : List SessionEvent} (hf : Faithful c m delivered) (h : Tracks m log)
    (input : Input) (he : ∀ e, input = .deliver e → Deliverable m.world.2 delivered e) :
    Tracks (m.step c.journaled input) (log ++ (m.reading c.journaled input).toList) := by
  cases ht : m.takes input with
  | some x => exact h.take he ht
  | none =>
    have hr : m.reading c.journaled input = none := by simp [reading, ht]
    rw [hr, Option.toList_none, List.append_nil]
    exact h.pass hf.reachable hf.samplingDated ht

variable (c) in
/-- One turn keeps the readings consecutive. -/
theorem consecutive (h : Tracks m log) (hc : Reading.Consecutive log) (input : Input) :
    Reading.Consecutive (log ++ (m.reading c.journaled input).toList) := by
  cases ht : m.takes input with
  | none => simpa [reading, ht] using hc
  | some x =>
    rw [h.reading_eq c ht]
    exact hc.snoc _ rfl

/-- Along a faithful run, the readings stay consecutive. -/
theorem run {delivered : List SessionEvent} (hf : Faithful c m delivered) (h : Tracks m log)
    (hc : Reading.Consecutive log) (inputs : List Input) (hd : Delivers c m delivered inputs) :
    Reading.Consecutive (log ++ readings c.journaled m inputs) := by
  induction inputs generalizing m delivered log with
  | nil => simpa [readings] using hc
  | cons input inputs ih =>
    rw [readings, ← List.append_assoc]
    have hc' := h.consecutive c hc input
    cases input with
    | command cmd =>
      exact ih (.command cmd hf) (h.step hf _ fun _ he => by cases he) hc' hd
    | deliver e =>
      exact ih (.deliver e hf hd.1) (h.step hf _ fun _ he => by cases he; exact hd.1) hc' hd.2
    | hangUp =>
      exact ih (.hangUp hf) (h.step hf _ fun _ he => by cases he) hc' hd

end Tracks

variable (c)

/-- The bitrate is derived from consecutive readings of the live stats timer. Along every run
from a fresh controller in which the producers deliver the events, the bitrates published with
the readings of each generation are none for the first and, for each later one, the bitrate from
the reading before it; a reading is taken only while the stats timer runs. A stats report without
a reading, of another generation, or arriving while not Connected changes nothing. A sampler on
its own, after any sequence of samples and resets, gives for a sample no bitrate when none was
taken since the last reset and otherwise the bitrate from the last one, and the sample becomes
the baseline. -/
theorem bitrate_consecutive :
    (∀ config world inputs, Delivers c (start config (world, [])) [] inputs →
      ∀ g, Reading.bitrates (readings c.journaled (start config (world, [])) inputs) g =
        pairwiseBitrates (Reading.samples (readings c.journaled (start config (world, [])) inputs) g)) ∧
    (∀ m delivered, Faithful c m delivered → ∀ e x, Deliverable m.world.2 delivered e →
      m.takes (.deliver e) = some x → m.ctl.timers.stats.isSome) ∧
    (∀ (m : Machine W) g report, report = none ∨ g ≠ m.ctl.generation ∨ m.ctl.status ≠ .connected →
      m.step c (.deliver ⟨g, .statsReport report⟩) = m) ∧
    ∀ (actions : List Sampler.Action) (x : Sample), ((actions.foldl Sampler.apply {}).sample x).1 =
        (actions.foldl Sampler.sinceReset []).getLast?.bind (fun p => bitrateKbps p x) ∧
      ((actions.foldl Sampler.apply {}).sample x).2.prev = some x := by
  refine ⟨fun config world inputs hd => ?_,
    fun m delivered hf e x he ht => hf.takes_timed he ht,
    fun m g report h => step_report_ignored c m g report h, Sampler.sample_after⟩
  have h := (Tracks.start config world).run (.start config world) .nil inputs hd
  rw [List.nil_append] at h
  exact h

/-- In the recording world, a viewer connects to a local server, the peer session connects,
and the stats timer reads the counters twice: the run takes two readings of generation 1, and
their bitrates are published consecutively. -/
theorem start_bitrate_consecutive :
    let c := Scenario.World.collaborators true true
    let sig : Url :=
      { scheme := "ws", username := "", password := none,
        host := some (.ipv6 [0, 0, 0, 0, 0, 0, 0, 1]), port := some 8080,
        path := .segments ["api", "webrtc", "ws"], query := none, fragment := none }
    let inputs : List Input :=
      [.command (.connect ⟨"live", "[::1]:8080", .peerToPeer⟩),
        .deliver ⟨1, .signalingOpened sig (.ok 0)⟩, .deliver ⟨1, .peer (.stateChanged .connected)⟩,
        .deliver ⟨1, .statsReport (some ⟨1000, 0.0, none⟩)⟩,
        .deliver ⟨1, .statsReport (some ⟨126000, 1000.0, none⟩)⟩]
    Delivers c (start default ({}, [])) [] inputs ∧
      (Reading.samples (readings c.journaled (start default ({}, [])) inputs) 1).map Sample.bytes =
        [1000, 126000] ∧
      ∀ g, Reading.bitrates (readings c.journaled (start default ({}, [])) inputs) g =
        pairwiseBitrates (Reading.samples (readings c.journaled (start default ({}, [])) inputs) g) := by
  intro c sig inputs
  -- the opener, the peer pump and the stats timer are found in the journal as the run goes
  have hd : Delivers c (start default ({}, [])) [] inputs := by decide +kernel
  have hs : (Reading.samples (readings c.journaled (start default ({}, [])) inputs) 1).map
      Sample.bytes = [1000, 126000] := by decide +kernel
  exact ⟨hd, hs, (bitrate_consecutive c).1 default {} inputs hd⟩

end Machine

end LiveViewer
