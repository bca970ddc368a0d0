import SignalLab.Backend.Options
import SignalLab.Outcome.Basic

/-!
# Failures of backends — and the replies of those that are reached

A backend reaches something outside: it launches a process or posts to a service.  What is reached
may fail in ways of its own; the class of such a failure decides who deals with it.  A `Reply` holds
the outcome or the failure of a backend, and what the backend did on the way.
-/

namespace SignalLab

/-- The classes of failures of what is outside. -/
inductive ExternalClass where
  /-- The system refused, for instance to start a process. -/
  | system
  /-- A request to a service failed; the system counts it among its own refusals. -/
  | request
  /-- A value could not be used. -/
  | value
  | other
  deriving DecidableEq, Repr

/-- A failure of what is outside. -/
structure ExternalFailure where
  kind : ExternalClass
  name : Text
  message : Text
  deriving DecidableEq, Repr

namespace ExternalFailure

/-- The message, or else the name. -/
def display (e : ExternalFailure) : Text :=
  if e.message.isEmpty then e.name else e.message

/-- Whether the system refused. -/
def isSystem (e : ExternalFailure) : Bool :=
  e.kind = .system || e.kind = .request

/-- Whether a service is to blame. -/
def isService (e : ExternalFailure) : Bool :=
  e.kind = .request || e.kind = .value

end ExternalFailure

/-- Why a backend has no outcome. -/
inductive BackendFailure where
  | launch (message : Text)
  | timeout (seconds : Float)
  | noAddress
  | external (e : ExternalFailure)
  | payload (fault : Payload.Fault)
  | arithmetic (fault : Fault)

/-- The wording of a backend failure. -/
def BackendFailure.message : BackendFailure → Text
  | .launch message => "Cannot launch Octave: " ++ message
  | .timeout seconds =>
    "Octave timed out after " ++ Double.format .general 6 seconds ++ [' ', 's']
  | .noAddress => "OCTAVE_API_URL is not configured"
  | .external e => e.message
  | .payload fault => fault.message
  | .arithmetic fault => fault.message

/-- The launch of a process that runs a program. -/
structure Launch where
  code : Text
  timeout : Float
  binary : Text
  cpuSeconds : Int
  memoryLimit : Option Int

/-- A post to the service that runs programs. -/
structure Post where
  address : Text
  code : Text
  limit : Int
  headers : Keyed Text
  timeout : Float

/-- What a backend does outside. -/
inductive Call where
  | launch (l : Launch)
  | post (p : Post)

/-- What a backend comes to: its outcome or failure, its calls, and the readings of the clock it
took. -/
structure Reply where
  result : Except BackendFailure Outcome
  calls : List Call
  readings : Nat

end SignalLab
