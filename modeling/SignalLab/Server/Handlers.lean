import SignalLab.Backend.Dispatch
import SignalLab.Lab.Execution
import SignalLab.Server.Limits
import SignalLab.Spectrum.Spectra

/-!
# Handlers — the answers of the server to its requests

A request to execute a program is rejected if it has none, and has an outcome otherwise, whatever
goes wrong.  A request for a spectrum is rejected if its signal, window or sample rate cannot be
used.
-/

namespace SignalLab.Server

/-- A program that is not missing and not blank. -/
def usable? (code : Option Text) : Option Text :=
  code.filter fun s => !Text.isBlankText s

/-- The outcome of a request without a program. -/
def missingCode : Outcome :=
  .failed "No code provided" [] none

/-- The answer to a request to execute a program, and the calls made for it. -/
structure Answer where
  rejected : Bool
  outcome : Outcome
  calls : List Call

/-- The answer to a request without a program. -/
def rejection : Answer := ⟨true, missingCode, []⟩

/-! ## Programs -/

/-- A request to execute a program, through the backends or step by step. -/
structure ExecuteRequest where
  code : Option Text
  throughBackends : Bool
  config : Payload

/-- The smaller of two doubles; the first if they cannot be compared. -/
def lesser (x y : Float) : Float :=
  if y < x then y else x

/-- The settings of a run within a time limit in seconds. -/
def settingsWithin (seconds : Float) : Settings :=
  { Settings.standard with maxTime := lesser Settings.standard.maxTime seconds }

/-- The outcome of a program that is run step by step within the caps. -/
def runWithin (caps : Caps) (clock draw : Nat → Float) (code : Text) : Except Fault Outcome := do
  let seconds ← Quantity.divIntegers caps.timeout 1000
  .ok ((Program.run (settingsWithin seconds) clock draw code).plotted caps.plotOutput)

/-- The outcome of a program within the caps, and the calls made for it. -/
def executeWithin (host : Host) (backends : Backends) (clock draw : Nat → Float)
    (throughBackends : Bool) (caps : Caps) (code : Text) : Except Fault (Outcome × List Call) :=
  if throughBackends then
    let d := backends.dispatch clock code (Options.resolve host caps.options)
    .ok (d.outcome, d.calls)
  else (runWithin caps clock draw code).map fun o => (o, [])

/-- The outcome of a request that could not be executed. -/
def unhandled (clock : Nat → Float) (message : Text) : Answer :=
  ⟨false, .failed message [] (some (Program.milliseconds (clock 0) (clock 1))), []⟩

/-- The answer to a request to execute a program. -/
def execute (host : Host) (backends : Backends) (clock draw : Nat → Float)
    (r : ExecuteRequest) : Answer :=
  match usable? r.code with
  | none => rejection
  | some code =>
    match Caps.ofPayload r.config with
    | .error fault => unhandled clock fault.message
    | .ok caps =>
      match executeWithin host backends (Program.clockFrom clock 1) draw r.throughBackends caps
        code with
      | .ok (outcome, calls) => ⟨false, outcome, calls⟩
      | .error fault => unhandled clock fault.message

/-- The answer to a request to execute a lab program. -/
def executeLab (clock draw : Nat → Float) (code : Option Text) : Answer :=
  match usable? code with
  | none => rejection
  | some code => ⟨false, Lab.execute Settings.standard clock draw Lab.demonstrate code, []⟩

/-! ## Spectra -/

/-- A request for the spectrum of a signal. -/
structure SignalRequest where
  signal : List Float
  fs : Float
  window : Text
  normalize : Bool
  padding : Int

/-- Why a signal is rejected. -/
inductive SignalRejection where
  | empty
  | tooLong
  | unknownWindow (name : Text)
  | sampleRate
  deriving DecidableEq, Repr

/-- The wording of a rejection. -/
def SignalRejection.message : SignalRejection → Text
  | .empty => "Empty signal"
  | .tooLong => "Signal longer than " ++ Text.ofNat maxSignalLength ++ " samples"
  | .unknownWindow name => "Unknown window '" ++ name ++ ['\'']
  | .sampleRate => "fs must be positive"

/-- The window of a request that is not rejected. -/
def accept (r : SignalRequest) : Except SignalRejection Spectrum.Window :=
  if r.signal.isEmpty then .error .empty
  else if maxSignalLength < r.signal.length then .error .tooLong
  else
    match Spectrum.Window.ofName? r.window with
    | none => .error (.unknownWindow r.window)
    | some w => if r.fs ≤ 0.0 then .error .sampleRate else .ok w

/-- The padding of a signal within the limits. -/
def paddingWithin (padding : Int) : Nat :=
  (min padding maxPadding).toNat

/-- The answer to a request for a spectrum: a rejection, or the spectrum unless a modulus is too
large. -/
def signalSpectrum (r : SignalRequest) :
    Except SignalRejection (Except Fault Spectrum.SingleSided) := do
  let window ← accept r
  .ok (Spectrum.singleSided r.signal r.fs r.normalize (paddingWithin r.padding) window)

/-! ## Health -/

/-- Which backends are turned on: the local process and the remote service. -/
def health (host : Host) : Bool × Bool :=
  let o := Options.resolve host {}
  (o.nativeRuntime, o.dockerRuntime)

end SignalLab.Server
