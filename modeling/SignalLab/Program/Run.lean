import SignalLab.Outcome.Basic
import SignalLab.Program.Execution
import SignalLab.Text.Lines

/-!
# Runs — programs executed statement by statement

A program is cut into lines and these into statements; blank lines and lines that begin with a
percent sign have none.  A run looks at the clock once at the start, once before every statement
and once at the end.  It stops at the first failure, which its transcript then names in a last
line.
-/

namespace SignalLab.Program

/-- The lines of a program, numbered from one, with their blanks trimmed. -/
def numberedLines (code : Text) : List (Text × Nat) :=
  ((Text.lines code).map Text.trim).zipIdx 1

/-- The statements of a line; a comment has none. -/
def lineStatements (line : Text) : List Text :=
  if line.head? = some '%' then [] else Statement.split line

/-- The statements of a program with the numbers of their lines. -/
def statements (code : Text) : List (Nat × Text) :=
  (numberedLines code).flatMap fun (line, number) =>
    (lineStatements line).map fun statement => (number, statement)

/-- Why and in which line a run stopped. -/
structure Stop where
  line : Nat
  failure : Failure

/-- The wording of a stop. -/
def Stop.message (stop : Stop) : Text :=
  stop.failure.messageAt stop.line

/-- Where a run is or came to: its state, the statements it has looked at, and why it stopped. -/
structure Progress where
  state : State
  steps : Nat
  stop : Option Stop

/-- Runs statements, `steps` having been looked at before. -/
def runFrom (s : Settings) (clock draw : Nat → Float) (steps : Nat) (state : State) :
    List (Nat × Text) → Progress
  | [] => ⟨state, steps, none⟩
  | (line, text) :: rest =>
    let steps := steps + 1
    if s.maxTime < clock steps - clock 0 then ⟨state, steps, some ⟨line, .breach .time⟩⟩
    else if s.maxSteps < steps then ⟨state, steps, some ⟨line, .breach .steps⟩⟩
    else
      match Statement.run s draw state text with
      | (state, none) => runFrom s clock draw steps state rest
      | (state, some failure) => ⟨state, steps, some ⟨line, failure⟩⟩

/-- Runs a program after the given number of draws. -/
def execute (s : Settings) (clock draw : Nat → Float) (draws : Nat) (code : Text) : Progress :=
  runFrom s clock draw 0 (.initial draws) (statements code)

/-- The readings of the clock a run has taken. -/
def Progress.readings (p : Progress) : Nat :=
  p.steps + 2

/-- The last line of a failed transcript. -/
def errorLine (message : Text) : Text :=
  ">> Error: " ++ message

/-- The milliseconds between two readings of the clock. -/
def milliseconds (start stop : Float) : Float :=
  (stop - start) * 1000.0

/-- What a run comes to. -/
def Progress.outcome (clock : Nat → Float) (p : Progress) : Outcome :=
  let elapsed := some (milliseconds (clock 0) (clock (p.steps + 1)))
  match p.stop with
  | none => .succeeded p.state.transcript p.state.dataset elapsed
  | some stop =>
    .failed stop.message (p.state.transcript ++ [errorLine stop.message]) elapsed

/-- The outcome of a program. -/
def run (s : Settings) (clock draw : Nat → Float) (code : Text) : Outcome :=
  (execute s clock draw 0 code).outcome clock

/-! ## Sessions -/

/-- The clock after the given number of readings. -/
def clockFrom (clock : Nat → Float) (readings : Nat) : Nat → Float :=
  fun i => clock (readings + i)

/-- The outcomes of programs that run one after the other, each with its own settings.  They share
the clock and the random numbers, and nothing else. -/
def session (clock draw : Nat → Float) (readings draws : Nat) :
    List (Settings × Text) → List Outcome
  | [] => []
  | (s, code) :: rest =>
    let clock' := clockFrom clock readings
    let p := execute s clock' draw draws code
    p.outcome clock' :: session clock draw (readings + p.readings) p.state.draws rest

end SignalLab.Program
