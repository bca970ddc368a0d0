import SignalLab.Expression.Evaluation

/-!
# Settings — limits of a run, and why a run stops

A run has four limits: on the statements it executes, the time it takes, the characters it prints
and the elements of a vector.  A breach of a limit stops the run, as does a failed evaluation under
the strict policy and a fault of the arithmetic of a wave or of a plot.
-/

namespace SignalLab

/-- The limits of a run, what a failed evaluation counts as, and the frequency and the sample rate
of programs that bind none. -/
structure Settings where
  maxSteps : Int
  maxTime : Float
  maxOutput : Int
  maxVector : Int
  fallback : FallbackPolicy
  defaultFrequency : Float
  defaultSampleRate : Float

/-- The sample rate where none is given, in hertz. -/
def defaultSampleRate : Nat := 1000

/-- The usual settings. -/
def Settings.standard : Settings where
  maxSteps := 100000
  maxTime := 10.0
  maxOutput := 100000
  maxVector := 1000000
  fallback := .zero
  defaultFrequency := 50.0
  defaultSampleRate := Double.ofNat SignalLab.defaultSampleRate

/-- A limit that a run went beyond. -/
inductive Breach where
  | steps
  | time
  | output
  | rangeLength (limit : Int)
  | randomLength (limit : Int)
  deriving DecidableEq, Repr

namespace Breach

/-- The code of a breach. -/
def code : Breach → Text
  | .steps => "STEP_LIMIT"
  | .time => "TIMEOUT"
  | .output => "OUTPUT_LIMIT"
  | .rangeLength _ => "VECTOR_LIMIT"
  | .randomLength _ => "VECTOR_LIMIT"

/-- The wording of a breach. -/
def message : Breach → Text
  | .steps => "Step limit exceeded"
  | .time => "Time limit exceeded"
  | .output => "Output length limit reached"
  | .rangeLength limit => "Range exceeds " ++ Text.ofInt limit ++ " elements"
  | .randomLength limit => "Random vector exceeds " ++ Text.ofInt limit ++ " elements"

end Breach

/-- Why a statement has no result: an assignment without a value under the strict policy, or a print call
that ended in an error that it does not pass over. -/
inductive Unresolved where
  /-- A wave without a time vector. -/
  | timeVector
  /-- A transform of something that is not a name. -/
  | transformArgument
  /-- A transform of a variable that holds no real vector. -/
  | realVector (name : Text)
  /-- An error of a print call, with its wording. -/
  | printError (message : Text)
  deriving DecidableEq, Repr

/-- The wording of an unresolved statement. -/
def Unresolved.message : Unresolved → Text
  | .timeVector => "sin/cos needs a time vector 't'"
  | .transformArgument => "fft expects a single variable argument"
  | .realVector name => '\'' :: name ++ "' is not a real vector"
  | .printError message => message

/-- Why a statement stops a run. -/
inductive Failure where
  | breach (breach : Breach)
  | unresolved (reason : Unresolved)
  | evaluation (error : EvalError)
  | arithmetic (fault : Fault)
  deriving DecidableEq, Repr

namespace Failure

/-- The wording of a failure. -/
def message : Failure → Text
  | .breach b => b.message
  | .unresolved reason => reason.message
  | .evaluation e => e.message
  | .arithmetic fault => fault.message

/-- The wording of a failure in a line of a program; only breaches name the line. -/
def messageAt (line : Nat) : Failure → Text
  | .breach b => "Line " ++ Text.ofNat line ++ ": " ++ b.message
  | failure => failure.message

end Failure

end SignalLab
