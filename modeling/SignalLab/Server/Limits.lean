import SignalLab.Backend.Options
import SignalLab.Payload.Basic

/-!
# Limits of the server — what a client may ask for

A client may ask for less time and memory than the server allows, never for more, and at least for
one millisecond and one megabyte.  What it asks for is converted to an integer; a value that cannot
be converted is a fault.
-/

namespace SignalLab.Server

/-- The longest time limit, in milliseconds. -/
def maxTimeout : Int := 30000

/-- The largest memory limit, in megabytes. -/
def maxMemoryLimit : Int := 512

/-- The longest signal of which a spectrum is worked out. -/
def maxSignalLength : Nat := 1024

/-- The largest padding of a signal. -/
def maxPadding : Int := 2

/-- What a request is limited to. -/
structure Caps where
  timeout : Int
  memoryLimit : Int
  plotOutput : Bool
  deriving DecidableEq, Repr

namespace Caps

/-- The limits of a request that asks for none. -/
def standard : Caps := ⟨Options.defaultTimeout, maxMemoryLimit, true⟩

/-- A value brought between one and a maximum. -/
def clamp (maximum value : Int) : Int :=
  max 1 (min value maximum)

/-- The limit that a setting asks for; a missing or null one leaves the standard. -/
def limitAt (settings : Keyed Payload) (key : Text) (maximum standard : Int) :
    Except Payload.Fault Int :=
  match Keyed.find? key settings with
  | none => .ok standard
  | some .null => .ok standard
  | some p => p.toInteger.map (clamp maximum)

/-- Whether a setting asks for a plot; a missing or null one does. -/
def plotAt (settings : Keyed Payload) : Bool :=
  match Keyed.find? "plotOutput" settings with
  | none => true
  | some .null => true
  | some p => p.truthy

/-- The limits that entries ask for. -/
def ofEntries (settings : Keyed Payload) : Except Payload.Fault Caps := do
  let timeout ← limitAt settings "timeoutMs" maxTimeout standard.timeout
  let memoryLimit ← limitAt settings "memoryLimitMb" maxMemoryLimit standard.memoryLimit
  .ok ⟨timeout, memoryLimit, plotAt settings⟩

/-- The limits that settings ask for; settings that count as false ask for none. -/
def ofPayload (settings : Payload) : Except Payload.Fault Caps :=
  if settings.truthy then do ofEntries (← settings.entries "get") else .ok standard

/-- The options of an execution within the limits. -/
def options (caps : Caps) : OpenOptions where
  timeout := some caps.timeout
  memoryLimit := some caps.memoryLimit
  plotOutput := some caps.plotOutput

end Caps

end SignalLab.Server
