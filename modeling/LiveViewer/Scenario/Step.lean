import LiveViewer.Scenario.Run

/-!
# Scenario steps and what each one shows

A step is a command to the controller, the scenario letting go of the controller's handle, the
passing of time, a change to how a stand-in answers, or a delivery on behalf of the server end
of a link, a peer session or a segment engine. A delivery names its target by number, or goes
to the latest one made.

After each step the scenario observes the published snapshot, the calls the stand-ins recorded
during the step, how many log entries the controller retains (while the scenario holds its
handle), which links' sending ends the controller still holds, and how often the viewer count
was asked for so far.
-/

namespace LiveViewer.Scenario

/-- One step of a scenario. -/
inductive Step where
  /-- A command to the controller. -/
  | command (cmd : Command)
  /-- The scenario lets go of the controller's handle. -/
  | dropHandle
  /-- Time passes. -/
  | advance (ms : Nat)
  /-- Signaling opens fail with the text from now on, or, with none, succeed again. -/
  | signalingFail (failure : Option String)
  /-- Peer calls of a kind fail as given from now on, or, with none, succeed again. -/
  | peerFail (kind : PeerCallKind) (fault : Option (Option String))
  /-- Engine starts fail with the text from now on, or, with none, succeed again. -/
  | engineFail (failure : Option String)
  /-- Whether the surface plays playlists itself from now on. -/
  | nativeHls (value : Bool)
  /-- What the stream information source answers from now on: a count or an HTTP status. -/
  | viewers (answer : Except Nat UInt32)
  /-- The server delivers an event on a link. -/
  | server (link : Option Nat) (event : LinkEvent)
  /-- A peer session reports an event. -/
  | peer (peer : Option Nat) (event : PeerEvent)
  /-- What reading a peer session's counters answers from now on. -/
  | peerReport (peer : Option Nat) (report : Option InboundReport)
  /-- A segment engine reports an event. -/
  | engine (engine : Option Nat) (event : EngineEvent)
  deriving Inhabited

/-- What a step answered. -/
inductive Outcome where
  /-- The controller's answer to a command. -/
  | reply (result : Except ViewerError Unit)
  /-- Whether the controller still listened to a delivery. -/
  | delivered (listened : Bool)
  /-- Nothing to answer. -/
  | done
  /-- The step cannot be taken: it names something that does not exist. -/
  | refused (reason : String)
  deriving Inhabited

/-- What the scenario sees after a step. -/
structure Observation where
  /-- The step's answer. -/
  outcome : Outcome
  /-- The snapshot the controller last published. -/
  snapshot : Snapshot
  /-- The calls recorded during the step. -/
  trace : Trace
  /-- The log entries retained, while the scenario holds the handle. -/
  retainedLogs : Option Nat
  /-- For each link, whether the controller still holds its sending end. -/
  endsOpen : List Bool
  /-- How often the viewer count was asked for so far. -/
  infoRequests : Nat
  deriving Inhabited

namespace Scene

/-- The number `target` names among `count` things: itself, or the latest. -/
def pick (target : Option Nat) (count : Nat) (what : String) : Except String Nat :=
  match target with
  | some i => if i < count then .ok i else .error ("no " ++ what ++ " " ++ toString i)
  | none => if count = 0 then .error ("no " ++ what ++ " yet") else .ok (count - 1)

/-- Takes a step, answering what it answers. -/
def take (s : Scene) : Step → Outcome × Scene
  | .command cmd =>
    if !s.holding then (.refused "the controller handle was dropped", s)
    else
      let (r, s) := s.command cmd
      (.reply r, s)
  | .dropHandle => (.done, s.dropHandle)
  | .advance ms => (.done, s.advance ms)
  | .signalingFail failure => (.done, s.setWorld fun w => { w with signalingFailure := failure })
  | .peerFail kind fault =>
    (.done, s.setWorld fun w => { w with peerFaults := w.peerFaults.set kind fault })
  | .engineFail failure => (.done, s.setWorld fun w => { w with engineFailure := failure })
  | .nativeHls value => (.done, s.setWorld fun w => { w with nativeHls := value })
  | .viewers answer => (.done, s.setWorld fun w => { w with viewers := answer })
  | .server link e =>
    match pick link s.machine.world.links.size "signaling link" with
    | .error reason => (.refused reason, s)
    | .ok i =>
      let (listened, s) := s.serverSends i e
      (.delivered listened, s)
  | .peer peer e =>
    match pick peer s.machine.world.peers.size "peer" with
    | .error reason => (.refused reason, s)
    | .ok i =>
      let (listened, s) := s.peerReports i e
      (.delivered listened, s)
  | .peerReport peer report =>
    match pick peer s.machine.world.peers.size "peer" with
    | .error reason => (.refused reason, s)
    | .ok i => (.done, s.setWorld fun w => w.updatePeer i fun p => { p with report })
  | .engine engine e =>
    match pick engine s.machine.world.engines.size "engine" with
    | .error reason => (.refused reason, s)
    | .ok i =>
      let (listened, s) := s.engineReports i e
      (.delivered listened, s)

/-- Takes a step with a fresh record of calls, and observes the scene after it. -/
def step (s : Scene) (st : Step) : Observation × Scene :=
  let s := s.setWorld fun w => { w with trace := {} }
  let (outcome, s) := s.take st
  let m := s.machine
  let o : Observation := {
    outcome := outcome
    snapshot := m.ctl.published
    trace := m.world.trace
    retainedLogs := if s.holding then some m.ctl.logBook.size else none
    endsOpen := m.world.links.toList.map (·.senderHeld)
    infoRequests := m.world.infoRequests }
  (o, s)

/-- Runs a whole scenario from a fresh scene, observing every step. -/
def run (s : Scene) (steps : List Step) : List Observation :=
  (steps.foldl (fun (acc : Array Observation × Scene) st =>
    let (o, s) := acc.2.step st
    (acc.1.push o, s)) (#[], s)).1.toList

end Scene

end LiveViewer.Scenario
