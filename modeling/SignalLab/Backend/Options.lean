import SignalLab.Number.Quantity
import SignalLab.Payload.Basic

/-!
# Options — how a program is to be executed

Options choose a backend, limit its time and memory, and may drop the plot.  What is left open is
taken from the variables of the host; local simulation is the default.
-/

namespace SignalLab

/-- The variables of the host. -/
abbrev Host := Keyed Text

namespace Host

/-- The value of a variable that is not empty. -/
def nonempty? (host : Host) (name : Text) : Option Text :=
  (Keyed.find? name host).filter fun value => !value.isEmpty

/-- Whether a variable says `true`, in letters of either case and with blanks around it. -/
def flag (host : Host) (name : Text) : Bool :=
  ((Keyed.find? name host).map fun value => Text.lowerAscii value.trim) = some "true".toList

end Host

/-- The options of an execution. -/
structure Options where
  timeout : Option Int := none
  memoryLimit : Option Int := none
  plotOutput : Bool := true
  nativeRuntime : Bool := false
  dockerRuntime : Bool := false
  apiKey : Option Text := none
  deriving DecidableEq, Repr

/-- Options of which some are left open. -/
structure OpenOptions where
  timeout : Option Int := none
  memoryLimit : Option Int := none
  plotOutput : Option Bool := none
  nativeRuntime : Option Bool := none
  dockerRuntime : Option Bool := none
  apiKey : Option Text := none
  deriving DecidableEq, Repr

namespace Options

/-- The time limit where none is given, in milliseconds. -/
def defaultTimeout : Int := 10000

/-- The time limit in milliseconds. -/
def effectiveTimeout (o : Options) : Int :=
  o.timeout.getD defaultTimeout

/-- The time limit in seconds. -/
def timeoutSeconds (o : Options) : Except Fault Float :=
  Quantity.divIntegers o.effectiveTimeout 1000

/-- The variable that turns the local process on. -/
def nativeVariable : Text := "ENABLE_OCTAVE_NATIVE"

/-- The variable that turns the remote service on. -/
def dockerVariable : Text := "ENABLE_OCTAVE_DOCKER"

/-- The variable with the key of the remote service. -/
def keyVariable : Text := "OCTAVE_API_KEY"

/-- The options with what is left open taken from the host. -/
def resolve (host : Host) (o : OpenOptions) : Options where
  timeout := o.timeout
  memoryLimit := o.memoryLimit
  plotOutput := o.plotOutput.getD true
  nativeRuntime := o.nativeRuntime.getD (host.flag nativeVariable)
  dockerRuntime := o.dockerRuntime.getD (host.flag dockerVariable)
  apiKey := o.apiKey.or (host.nonempty? keyVariable)

/-! ## Payloads -/

/-- The names of the options. -/
def names : List Text :=
  ["timeout_ms", "memory_limit_mb", "plot_output", "enable_native_runtime",
   "enable_docker_runtime", "api_key"]

/-- The first name that is none of an option. -/
def unknownName? (entries : Keyed Payload) : Option Text :=
  (Keyed.names entries).find? fun name => !names.contains name

/-- The entry of an option, unless it is null. -/
def valueAt? (entries : Keyed Payload) (name : Text) : Option Payload :=
  (Keyed.find? name entries).filter fun p => !p.isNull

/-- The integer of an option. -/
def integerAt? (entries : Keyed Payload) (name : Text) : Option Int :=
  (valueAt? entries name).bind fun p => p.toInteger.toOption

/-- The text of an option. -/
def textAt? (entries : Keyed Payload) (name : Text) : Option Text :=
  (valueAt? entries name).map Payload.display

/-- Entries that leave some options open. -/
def openOfEntries (entries : Keyed Payload) : Except Payload.Fault OpenOptions :=
  let given := entries.filter fun entry => !entry.2.isNull
  match unknownName? given with
  | some name => .error (.unknownOption name)
  | none =>
    .ok
      { timeout := integerAt? given "timeout_ms"
        memoryLimit := integerAt? given "memory_limit_mb"
        plotOutput := (valueAt? given "plot_output").map Payload.truthy
        nativeRuntime := (valueAt? given "enable_native_runtime").map Payload.truthy
        dockerRuntime := (valueAt? given "enable_docker_runtime").map Payload.truthy
        apiKey := textAt? given "api_key" }

/-- Entries that are all the options there are; one that is missing has its default. -/
def ofEntries (entries : Keyed Payload) : Except Payload.Fault Options :=
  let flagAt (name : Text) (default : Bool) : Bool :=
    ((Keyed.find? name entries).map Payload.truthy).getD default
  match unknownName? entries with
  | some name => .error (.unknownOption name)
  | none =>
    .ok
      { timeout := integerAt? entries "timeout_ms"
        memoryLimit := integerAt? entries "memory_limit_mb"
        plotOutput := flagAt "plot_output" true
        nativeRuntime := flagAt "enable_native_runtime" false
        dockerRuntime := flagAt "enable_docker_runtime" false
        apiKey := textAt? entries "api_key" }

end Options

end SignalLab
