import SignalLab.Backend.Process
import SignalLab.Backend.Service
import SignalLab.Simulation.DenyList
import SignalLab.Simulation.Synthesis

/-!
# Dispatch — one backend for a program, and simulation if it fails

The options name at most one backend: the local process, or else the remote service.  If none is
named, or the named one fails, the program is simulated, with its denied calls neutralized.  There is
always an outcome, and it always has the time from the first reading of the clock to the last.
-/

namespace SignalLab

/-- What can execute a program. -/
inductive Target where
  | native | docker | simulation
  deriving DecidableEq, Repr

/-- A program given to a target. -/
structure Visit where
  target : Target
  code : Text
  deriving DecidableEq, Repr

/-- The backends of a dispatcher.  Each gets the clock from its first reading on; the simulator
answers with the readings it took and fails with a message. -/
structure Backends where
  native : (Nat → Float) → Text → Options → Reply
  docker : (Nat → Float) → Text → Options → Reply
  simulator : (Nat → Float) → Text → Except Text Outcome × Nat

/-- What a dispatch comes to: the outcome, the targets visited and their calls outside. -/
structure Dispatched where
  outcome : Outcome
  visits : List Visit
  calls : List Call

/-- The simulator for the given random draws. -/
def simulator (draw : Nat → Float) (clock : Nat → Float) (code : Text) :
    Except Text Outcome × Nat :=
  match Simulation.run clock draw 0.0 code with
  | .ok o => (.ok o, Simulation.readings)
  | .error fault => (.error fault.message, 1)

namespace Outcome

/-- The outcome without its dataset, unless a plot is asked for. -/
def plotted (o : Outcome) (plotOutput : Bool) : Outcome :=
  if plotOutput then o else { o with dataset := none }

/-- The outcome with the given time. -/
def timed (o : Outcome) (elapsed : Float) : Outcome :=
  { o with elapsed := some elapsed }

/-- The outcome of a simulation that failed. -/
def ofSimulationFailure (message : Text) (elapsed : Float) : Outcome :=
  let message := if message.isEmpty then Verdict.unknownError else message
  .failed message [Program.errorLine message] (some elapsed)

end Outcome

namespace Backends

/-- The backend that the options name. -/
def chosen? (b : Backends) (o : Options) :
    Option (Target × ((Nat → Float) → Text → Options → Reply)) :=
  if o.nativeRuntime then some (.native, b.native)
  else if o.dockerRuntime then some (.docker, b.docker)
  else none

/-- The outcome of a simulation after the given number of readings. -/
def simulate (b : Backends) (clock : Nat → Float) (readings : Nat) (code : Text)
    (o : Options) : Outcome :=
  let (result, used) := b.simulator (Program.clockFrom clock readings) (DenyList.sanitize code)
  let elapsed := Program.milliseconds (clock 0) (clock (readings + used))
  match result with
  | .ok outcome => (outcome.plotted o.plotOutput).timed elapsed
  | .error message => .ofSimulationFailure message elapsed

/-- The dispatch of a program. -/
def dispatch (b : Backends) (clock : Nat → Float) (code : Text) (o : Options) : Dispatched :=
  let simulation : Visit := ⟨.simulation, DenyList.sanitize code⟩
  match b.chosen? o with
  | none => ⟨b.simulate clock 1 code o, [simulation], []⟩
  | some (target, backend) =>
    let reply := backend (Program.clockFrom clock 1) code o
    match reply.result with
    | .ok outcome =>
      let elapsed := Program.milliseconds (clock 0) (clock (1 + reply.readings))
      ⟨(outcome.plotted o.plotOutput).timed elapsed, [⟨target, code⟩], reply.calls⟩
    | .error _ =>
      ⟨b.simulate clock (1 + reply.readings) code o, [⟨target, code⟩, simulation], reply.calls⟩

end Backends

end SignalLab
