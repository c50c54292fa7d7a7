import LiveViewer.Scenario.World

/-!
# Running a scenario

A scenario starts a controller in a recording world and takes steps: commands to the
controller, changes to how the stand-ins answer, deliveries on behalf of the server, a peer
session or a segment engine, and the passing of virtual time. After every step all work that
is ready runs until none is left, without the clock moving; only `advance` moves the clock,
and a timer that falls due on the way fires at its own instant, after which all work it
caused runs before the clock moves on.

A delivery answers whether the controller still listened to the link, peer session or engine
it was made on. What the stand-ins recorded during a step is that step's trace.
-/

namespace LiveViewer.Scenario

open LiveViewer.Act

/-- Hands an event to the controller's inbox and wakes the controller. -/
def World.deliver (e : SessionEvent) (w : World) : World :=
  { w with
    inbox := w.inbox ++ [e]
    ready := if w.ready.contains .controller then w.ready else w.ready ++ [.controller] }

/-- Takes producer `id` off the scheduler: it finished. -/
def World.finish (id : Nat) (w : World) : World :=
  { w with tasks := w.tasks.filter (·.id != id) }

/-- Sets when timer `id` fires next. -/
def World.reschedule (id : Nat) (due : Nat) (w : World) : World :=
  { w with tasks := w.tasks.map fun t => if t.id == id then { t with due := some due } else t }

/-- Opens a signaling link to `url`, as the stand-in connector does. -/
def World.openLink (url : Url) (w : World) : Except SignalingError Nat × World :=
  let w := w.note fun t => { t with opens := t.opens.push url }
  match w.signalingFailure with
  | some message => (.error (.connect message), w)
  | none => (.ok w.links.size, { w with links := w.links.push {} })

/-- What the stream information source answers, as a viewer count. -/
def World.viewerAnswer (w : World) : Except String UInt32 :=
  match w.viewers with
  | .ok count => .ok count
  | .error status => .error (EngineError.httpStatus status "").message

/-- Whether timer `t` is due now. -/
def World.isDue (w : World) (t : Task) : Bool :=
  match t.due with
  | some due => due ≤ w.clock
  | none => false

/-- Polls a producer once. -/
def World.poll (w : World) (t : Task) : World :=
  match t.producer with
  | .opener url =>
    let (result, w) := w.openLink url
    (w.finish t.id).deliver ⟨t.generation, .signalingOpened url result⟩
  | .enginePump none => w.finish t.id
  | .linkPump _ | .peerPump _ | .enginePump (some _) => w
  | .statsTimer peer period =>
    if !w.isDue t then w else
    let report := (w.peers[peer]?.map (·.report)).getD none
    (w.reschedule t.id (w.clock + period)).deliver ⟨t.generation, .statsReport report⟩
  | .viewerTimer _ _ period =>
    if !w.isDue t then w else
    let w := { w with infoRequests := w.infoRequests + 1 }
    (w.reschedule t.id (w.clock + period)).deliver ⟨t.generation, .viewerCount w.viewerAnswer⟩
  | .reconnectTimer _ =>
    if !w.isDue t then w else
    (w.finish t.id).deliver ⟨t.generation, .reconnectDue⟩

/-- The controller and its world, with the collaborators that join them. -/
structure Scene where
  /-- The stand-ins as collaborators. -/
  collab : Collaborators World
  /-- The controller and the world. -/
  machine : Machine World
  /-- Whether the scenario still holds the controller's handle. -/
  holding : Bool := true

namespace Scene

/-- The controller handles every event in its inbox, in order; a stopped controller reads
none. -/
def drainInbox (s : Scene) : Scene :=
  let events := s.machine.world.inbox
  let m := { s.machine with world := { s.machine.world with inbox := [] } }
  let m := events.foldl (fun m e =>
    if m.ctl.running then ((handleEvent s.collab e).run m).2 else m) m
  { s with machine := m }

/-- Runs ready work until none is left, for at most `fuel` jobs. -/
def settle (s : Scene) : (fuel : Nat) → Scene
  | 0 => s
  | fuel + 1 =>
    match s.machine.world.ready with
    | [] => s
    | job :: rest =>
      let s := { s with machine := { s.machine with world := { s.machine.world with ready := rest } } }
      match job with
      | .controller => (drainInbox s).settle fuel
      | .task id =>
        match s.machine.world.tasks.find? (·.id == id) with
        | none => s.settle fuel
        | some t =>
          { s with machine := { s.machine with world := s.machine.world.poll t } }.settle fuel

/-- Enough jobs for any step: far more than a step of a scenario ever runs. -/
def jobLimit : Nat := 1000000

/-- Runs ready work until none is left. -/
def quiesce (s : Scene) : Scene := s.settle jobLimit

/-- The earliest instant, not later than `limit`, at which a timer fires. -/
def nextDue (w : World) (limit : Nat) : Option Nat :=
  w.tasks.foldl (fun best t =>
    match t.due with
    | some due => if due ≤ limit then some (match best with | some b => min b due | none => due)
      else best
    | none => best) none

/-- Moves the clock to `target`, firing the timers due on the way at their instants, for at
most `fuel` instants. -/
def advanceTo (target : Nat) (s : Scene) : (fuel : Nat) → Scene
  | 0 => s
  | fuel + 1 =>
    let w := s.machine.world
    match nextDue w target with
    | none => { s with machine := { s.machine with world := { w with clock := target } } }
    | some t =>
      let due := (w.tasks.filter fun task => task.due == some t).map (Job.task ·.id)
      let w := { w with clock := t, ready := w.ready ++ due }
      ({ s with machine := { s.machine with world := w } }.quiesce).advanceTo target fuel

/-- Lets `ms` milliseconds pass. Every instant visited is later than the one before, so
`ms + 1` rounds are enough. -/
def advance (ms : Nat) (s : Scene) : Scene :=
  s.advanceTo (s.machine.world.clock + ms) (ms + 1)

/-- A fresh scene: a controller started with `config`, the world's answers set as given. -/
def start (config : ViewerConfig) (world : World) (engines streamInfo : Bool) : Scene :=
  quiesce {
    collab := World.collaborators engines streamInfo
    machine := { ctl := Controller.start config, world := world } }

/-- Runs an action of the controller. -/
def act {α : Type} (a : Act World α) (s : Scene) : α × Scene :=
  let (x, m) := a.run s.machine
  (x, { s with machine := m })

/-- Gives a command to the controller and lets everything settle; a controller whose handle
was dropped takes no more commands. -/
def command (cmd : Command) (s : Scene) : Except ViewerError Unit × Scene :=
  let (r, s) := s.act (handleCommand s.collab cmd)
  (r, s.quiesce)

/-- The scenario lets go of the controller's handle: a running controller disconnects and
stops. -/
def dropHandle (s : Scene) : Scene :=
  let s := { s with holding := false }
  if s.machine.ctl.running then (s.act (stop s.collab)).2.quiesce else s

/-- Changes the world's answers. -/
def setWorld (f : World → World) (s : Scene) : Scene :=
  { s with machine := { s.machine with world := f s.machine.world } }

/-- The producer forwarding what `p` describes, if it is running. -/
def pumpFor (w : World) (p : Producer → Bool) : Option Task :=
  w.tasks.find? fun t => p t.producer

/-- The server delivers `e` on link `link`; answers whether the controller still read it. -/
def serverSends (link : Nat) (e : LinkEvent) (s : Scene) : Bool × Scene :=
  let w := s.machine.world
  match w.links[link]? with
  | some l =>
    if !l.listened then (false, s) else
    match pumpFor w fun | .linkPump i => i == link | _ => false with
    | none => (false, s)
    | some pump =>
      let w := w.deliver ⟨pump.generation, .link e⟩
      let w := if e == .closed then (w.finish pump.id).updateLink link
          fun l => { l with listened := false } else w
      (true, (s.setWorld fun _ => w).quiesce)
  | none => (false, s)

/-- Peer session `peer` reports `e`; answers whether the controller still listened. -/
def peerReports (peer : Nat) (e : PeerEvent) (s : Scene) : Bool × Scene :=
  let w := s.machine.world
  match w.peers[peer]? with
  | some p =>
    if !p.listened then (false, s) else
    match pumpFor w fun | .peerPump i => i == peer | _ => false with
    | none => (false, s)
    | some pump => (true, (s.setWorld fun w => w.deliver ⟨pump.generation, .peer e⟩).quiesce)
  | none => (false, s)

/-- Segment engine `engine` reports `e`; answers whether the controller still listened. -/
def engineReports (engine : Nat) (e : EngineEvent) (s : Scene) : Bool × Scene :=
  let w := s.machine.world
  match w.engines[engine]? with
  | some true =>
    match pumpFor w fun | .enginePump (some j) => j == engine | _ => false with
    | none => (false, s)
    | some pump => (true, (s.setWorld fun w => w.deliver ⟨pump.generation, .engine e⟩).quiesce)
  | _ => (false, s)

end Scene

end LiveViewer.Scenario
