import LiveViewer.Proofs.Controller.Effects

/-!
# Runs of the controller

The controller loop takes one thing at a time: a command from a holder of the controller, an
event from one of the producers it started, or the news that every holder let go, after which
it disconnects and stops. `Input` names the three, `Machine.step` is one turn of the loop, and
`Machine.run` a sequence of turns.

The world is arbitrary: every answer a collaborator may give (a signaling open that fails or
not, a peer call that fails or not, a surface that plays playlists itself or not, a factory
that is there or not) is one choice of `W` and of `Collaborators W`, and the world may change
between two turns in any way the collaborators' answers allow.

`Machine.Reachable c` is everything the loop reaches from a fresh start when any input may come
at any time: any command, and any event with any generation. The events the producers really
deliver are among these, in every order the queue can deliver them, so a fact about every
reachable state holds for every interleaving of commands and deliveries.
-/

namespace LiveViewer

/-- What the controller loop takes next. -/
inductive Input where
  /-- A command from a holder of the controller. -/
  | command (cmd : Command)
  /-- An event from the queue. -/
  | deliver (event : SessionEvent)
  /-- Every holder of the controller let go. -/
  | hangUp
  deriving Inhabited

namespace Machine

variable {W : Type} (c : Collaborators W)

/-- One turn of the controller loop. A stopped controller refuses commands and reads no more
events. -/
def step (m : Machine W) : Input → Machine W
  | .command cmd => ((Act.handleCommand c cmd).run m).2
  | .deliver event => if m.ctl.running then ((Act.handleEvent c event).run m).2 else m
  | .hangUp => if m.ctl.running then ((Act.stop c).run m).2 else m

/-- The controller after taking `inputs` in order. -/
def run (m : Machine W) (inputs : List Input) : Machine W :=
  inputs.foldl (step c) m

@[simp] theorem run_nil (m : Machine W) : m.run c [] = m := rfl

@[simp] theorem run_cons (m : Machine W) (input : Input) (inputs : List Input) :
    m.run c (input :: inputs) = (m.step c input).run c inputs := rfl

theorem run_append (m : Machine W) (xs ys : List Input) :
    m.run c (xs ++ ys) = (m.run c xs).run c ys := by
  simp [run, List.foldl_append]

/-- The controller as it starts: no session and nothing running, in any world. -/
def start (config : ViewerConfig) (world : W) : Machine W :=
  ⟨Controller.start config, world⟩

/-- Everything the controller loop reaches from a fresh start, whatever comes in. -/
inductive Reachable : Machine W → Prop
  | start (config : ViewerConfig) (world : W) : Reachable (start config world)
  | step {m : Machine W} (input : Input) : Reachable m → Reachable (m.step c input)

/-- A state reached after any further inputs is reachable. -/
theorem Reachable.run {m : Machine W} (h : Reachable c m) (inputs : List Input) :
    Reachable c (m.run c inputs) := by
  induction inputs generalizing m with
  | nil => exact h
  | cons input inputs ih => exact ih (h.step input)

end Machine

end LiveViewer
