import SignalLab.Backend.Dump
import SignalLab.Backend.Failure
import SignalLab.Payload.Reader
import SignalLab.Program.Run

/-!
# The local process — programs run by an installed Octave

`processStart` prepares a script that runs a program and then dumps its variables, and
`ProcessEnd.run` reads what the process leaves behind.  `nativeReply` makes an outcome of a run: lines of output, and an error if
one is reported or the exit status is not zero.  A process that cannot be launched or takes too
long is a failure of the backend.
-/

namespace SignalLab

/-- What a process that ran a program leaves behind; the dump is null if there is none. -/
structure OctaveRun where
  status : Int
  stdout : Text
  stderr : Text
  dumped : Payload

/-! ## Processes -/

/-- The start of a process. -/
structure ProcessStart where
  arguments : List Text
  script : Text
  /-- The variables of the host that the process sees. -/
  visible : List Text
  timeout : Float

/-- What becomes of a process. -/
inductive ProcessEnd where
  | notStarted (e : ExternalFailure)
  | killed
  | exited (status : Int) (stdout stderr : Text) (dump : Option Text)

namespace OctaveRun

/-- The run of a process that was killed because it took too long. -/
def timedOut : OctaveRun := ⟨-1, [], "TIMEOUT", .null⟩

/-- Whether a run stands for a process that took too long. -/
def isTimedOut (r : OctaveRun) : Bool :=
  r.status = -1 && r.stderr = timedOut.stderr

end OctaveRun

/-- The lines behind a program that dump its variables to a file. -/
def dumpScript (path : Text) : Text :=
  "\n\noctlab_result__ = struct();\n" ++
  ("if exist('t', 'var'), octlab_result__.t = t; end\n" : Text) ++
  ("if exist('x', 'var'), octlab_result__.x = x; end\n" : Text) ++
  ("if exist('fs', 'var'), octlab_result__.fs = fs; end\n" : Text) ++
  ("if exist('X', 'var'), octlab_result__.X_mag = abs(X); end\n" : Text) ++
  ("octlab_fid__ = fopen('" : Text) ++ path ++ ("', 'w');\n" : Text) ++
  ("fputs(octlab_fid__, jsonencode(octlab_result__));\n" : Text) ++
  ("fclose(octlab_fid__);\n" : Text)

/-- The file of the program in a directory. -/
def scriptPath (directory : Text) : Text := directory ++ "/program.m"

/-- The file of the variables in a directory. -/
def dumpPath (directory : Text) : Text := directory ++ "/result.json"

/-- The variables that a process may see of its host. -/
def processVariables : List Text := ["HOME".toList, "PATH".toList]

/-- The start of a process that runs a program in a directory. -/
def processStart (directory code : Text) (timeout : Float) (binary : Text) : ProcessStart where
  arguments :=
    [binary, "--no-gui".toList, "--quiet".toList, "--no-window-system".toList, scriptPath directory]
  script := code ++ dumpScript (dumpPath directory)
  visible := processVariables
  timeout := timeout

/-- The variables of a dump; null if there is none that can be read. -/
def dumpedVariables (dump : Option Text) : Payload :=
  (dump.bind Payload.read?).getD .null

/-- The run of a process. -/
def ProcessEnd.run : ProcessEnd → Except ExternalFailure OctaveRun
  | .notStarted e => .error e
  | .killed => .ok .timedOut
  | .exited status stdout stderr dump => .ok ⟨status, stdout, stderr, dumpedVariables dump⟩

/-! ## The backend -/

/-- The variable with the name of the binary. -/
def binaryVariable : Text := "OCTAVE_BINARY"

/-- The binary to launch: the given one, or else the one the host names. -/
def octaveBinary (host : Host) (given : Text) : Text :=
  if given.isEmpty then (Keyed.find? binaryVariable host).getD "octave" else given

/-- The launch for a program with the given limit in seconds. -/
def launchOf (binary code : Text) (o : Options) (seconds : Float) : Except Fault Launch := do
  let rounded ← Double.toInteger .up seconds
  .ok ⟨code, seconds, binary, max 1 rounded, o.memoryLimit⟩

namespace OctaveRun

/-- The lines of output that are not empty. -/
def outputLines (r : OctaveRun) : List Text :=
  (Text.lines r.stdout).filter fun line => !line.isEmpty

/-- Whether an error is reported. -/
def reportsError (r : OctaveRun) : Bool :=
  Text.includes "error" (Text.lowerAscii r.stderr)

/-- The outcome of a run that was not cut short. -/
def outcome (r : OctaveRun) (plotOutput : Bool) (elapsed : Float) :
    Except Payload.Fault Outcome :=
  if r.reportsError then .ok (.failed r.stderr.trim r.outputLines (some elapsed))
  else if r.status ≠ 0 then
    .ok (.failed ("Octave exited with status " ++ Text.ofInt r.status) r.outputLines (some elapsed))
  else do
    let dataset ← if plotOutput then Dump.dataset r.dumped else .ok none
    .ok ⟨.success, r.outputLines.map .text, dataset, some elapsed⟩

end OctaveRun

/-- The failure of a launch: a refusal of the system is one of the backend's own. -/
def launchFailure (e : ExternalFailure) : BackendFailure :=
  if e.isSystem then .launch e.message else .external e

/-- The reply of the local process, reached by `launch`. -/
def nativeReply (binary : Text) (launch : Launch → Except ExternalFailure OctaveRun)
    (clock : Nat → Float) (code : Text) (o : Options) : Reply :=
  match o.timeoutSeconds with
  | .error fault => ⟨.error (.arithmetic fault), [], 0⟩
  | .ok seconds =>
    match launchOf binary code o seconds with
    | .error fault => ⟨.error (.arithmetic fault), [], 1⟩
    | .ok l =>
      match launch l with
      | .error e => ⟨.error (launchFailure e), [.launch l], 1⟩
      | .ok run =>
        if run.isTimedOut then ⟨.error (.timeout seconds), [.launch l], 1⟩
        else
          let elapsed := Program.milliseconds (clock 0) (clock 1)
          ⟨(run.outcome o.plotOutput elapsed).mapError .payload, [.launch l], 2⟩

end SignalLab
