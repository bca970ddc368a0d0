import SignalLab.Number.Fault
import SignalLab.Number.Reading
import SignalLab.Program.Settings
import SignalLab.Text.Pattern

/-!
# Parameters — the sample rate and the frequencies that a program writes

The sample rate is the number of the first `fs = digits` anywhere in the program; the frequencies are
those of all `f = digits` and `f1 = digits` at the beginning of a word, the digits behind `f` being
any.  The digits may be those of any script, and there may be too many of them to make a number.
-/

namespace SignalLab

/-- Why a simulation has no outcome. -/
inductive SimulationFault where
  | digits (fault : Text.IntegerFault)
  | arithmetic (fault : Fault)
  deriving DecidableEq, Repr

/-- The wording of a simulation fault. -/
def SimulationFault.message : SimulationFault → Text
  | .digits fault => fault.message
  | .arithmetic fault => fault.message

namespace Parameter

/-- The digits at the front behind an equals sign, blanks around the sign aside. -/
def assignedDigits? (s : Text) : Option (List Nat) := do
  let rest ← Text.afterBlanks? '=' s
  match Text.takeDigits (Text.trimLeft rest) with
  | ([], _) => none
  | (digits, _) => some digits

/-- The digits assigned to `fs` at the front. -/
def rateDigits? (s : Text) : Option (List Nat) := do
  assignedDigits? (← Text.after? "fs" s)

/-- The digits assigned to a frequency at the front. -/
def frequencyDigits? (s : Text) : Option (List Nat) := do
  let rest ← Text.after? "f" s
  assignedDigits? (rest.dropWhile Text.isDecimalDigit)

/-- The number with the given digits. -/
def number (digits : List Nat) : Except SimulationFault Int :=
  (Text.integerOfDigits false digits).mapError .digits

/-- The sample rate of a program; one that is missing or zero is the default. -/
def sampleRate (code : Text) (default : Int) : Except SimulationFault Int :=
  match Text.search (fun _ rest => rateDigits? rest) none code with
  | none => .ok default
  | some digits => do
    let rate ← number digits
    .ok (if rate ≤ 0 then default else rate)

/-- The frequencies of programs that write none. -/
def defaultFrequencies : List Int := [50, 120]

/-- The frequencies of a program. -/
def frequencies (code : Text) : Except SimulationFault (List Int) := do
  let found ← (Text.searchWords frequencyDigits? none code).mapM number
  .ok (if found.isEmpty then defaultFrequencies else found)

end Parameter

end SignalLab
