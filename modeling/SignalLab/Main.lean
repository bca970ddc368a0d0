import SignalLab.CommandLine.Command

/-!
# Main — the command line

The command reads a program from a file, or from the standard input for a lone dash, executes it as
its arguments ask, and prints the result.  Random numbers come from the seed, or from the time of
the start if there is none.  No process is launched and no service is reached from here: a program
that asks for the one is simulated, and one that asks for the other fails.
-/

namespace SignalLab.CommandLine

/-! ## Surroundings -/

/-- The next value of a 64-bit mixer: each bit of the argument reaches each bit of the result. -/
def mix (word : UInt64) : UInt64 :=
  let a := (word ^^^ (word >>> 30)) * 0xBF58476D1CE4E5B9
  let b := (a ^^^ (a >>> 27)) * 0x94D049BB133111EB
  b ^^^ (b >>> 31)

/-- The random draws of a seed: multiples of 2⁻⁵³ from zero to below one. -/
def drawsOf (seed : Int) (k : Nat) : Float :=
  let word := mix (UInt64.ofInt seed + UInt64.ofNat (k + 1) * 0x9E3779B97F4A7C15)
  Double.ofNat (word >>> 11).toNat / Double.ofNat (twoTo 53)

/-- The failure of a launch. -/
def noProcess : ExternalFailure := ⟨.system, "OSError", "no process can be started"⟩

/-- The failure of a post. -/
def noService : ExternalFailure := ⟨.request, "ConnectionError", "no service can be reached"⟩

/-- The backends of a host from which nothing outside is reached. -/
def backendsOf (host : Host) (draw : Nat → Float) : Backends where
  native := nativeReply (octaveBinary host []) fun _ => .error noProcess
  docker := serviceReply host [] fun _ => .error noService
  simulator := simulator draw

/-- The variables that the command asks its host for. -/
def hostVariables : List Text :=
  [Options.nativeVariable, Options.dockerVariable, Options.keyVariable, addressVariable,
   binaryVariable]

/-- What is printed for faulty arguments, and on request. -/
def usage : String :=
  "usage: signal-lab [-h] [--mode dispatch|interpreter|lab] [--timeout-ms N]\n" ++
  "                  [--memory-limit-mb N] [--no-plot] [--seed N] [--log-level LEVEL] path"

/-! ## The command -/

/-- The variables of the host that are set. -/
def readHost : IO Host :=
  hostVariables.filterMapM fun name => do
    let value ← IO.getEnv (String.ofList name)
    return value.map fun s => (name, s.toList)

/-- The program at a path. -/
def readProgram (path : Text) : IO Text := do
  if path = ['-'] then
    return (← (← IO.getStdin).readToEnd).toList
  else
    return (← IO.FS.readFile (String.ofList path)).toList

/-- Executes the program at a path and prints its outcome, with the time it took.  Nothing is timed
before the end, so a run is bounded by its steps. -/
def runCommand (path : Text) (a : Arguments) : IO UInt32 := do
  let code ← readProgram path
  let host ← readHost
  let start ← IO.monoNanosNow
  let draw := drawsOf (a.seed.getD start)
  let o := execute host (backendsOf host draw) (fun _ => 0.0) draw a code
  let status := UInt32.ofNat (exitStatus o)
  let elapsed := Double.ofNat ((← IO.monoNanosNow) - start) / 1000000.0
  IO.println (String.ofList (printed (o.timed elapsed)))
  return status

end SignalLab.CommandLine

/-- Answers the command line. -/
def main (arguments : List String) : IO UInt32 := do
  match SignalLab.CommandLine.request? (arguments.map String.toList) with
  | some (.run path a) => SignalLab.CommandLine.runCommand path a
  | some .help =>
    IO.println SignalLab.CommandLine.usage
    return 0
  | none =>
    IO.eprintln SignalLab.CommandLine.usage
    return UInt32.ofNat SignalLab.CommandLine.faultStatus
