import SignalLab.Backend.Dispatch
import SignalLab.CommandLine.Arguments
import SignalLab.Lab.Execution
import SignalLab.Payload.Printer

/-!
# The command — a program executed as the command line asks

The mode says whether the program is dispatched to the backends, run step by step, or run as a lab.
The result is printed as a payload, and the exit status is zero just for a success.
-/

namespace SignalLab.CommandLine

/-- The options that arguments leave to the host to complete. -/
def Arguments.options (a : Arguments) : OpenOptions where
  timeout := a.timeout
  memoryLimit := a.memoryLimit
  plotOutput := some (!a.noPlot)

/-- The outcome of a program. -/
def execute (host : Host) (backends : Backends) (clock draw : Nat → Float) (a : Arguments)
    (code : Text) : Outcome :=
  match a.mode with
  | .dispatch => (backends.dispatch clock code (Options.resolve host a.options)).outcome
  | .interpreter => (Program.run Settings.standard clock draw code).plotted (!a.noPlot)
  | .lab => Lab.execute Settings.standard clock draw Lab.demonstrate code

/-- The exit status of faulty arguments. -/
def faultStatus : Nat := 2

/-- The exit status of an outcome. -/
def exitStatus (o : Outcome) : Nat :=
  if o.success then 0 else 1

/-- What is printed for an outcome. -/
def printed (o : Outcome) : Text :=
  o.toPayload.indented

end SignalLab.CommandLine
