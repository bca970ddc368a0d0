import SignalLab.Lab.Demonstration
import SignalLab.Program.Run
import SignalLab.Simulation.Parameter

/-!
# Labs — programs run first, and demonstrated if that fails

A lab program is run.  If the run fails, the text of the program decides what is shown in its place:
the demonstration of the first marker that occurs anywhere in it, lab titles before headings, or a
short general transcript if there is none.  Nothing of the failed run is shown.
-/

namespace SignalLab.Lab

/-- The demonstrations. -/
inductive Topic where
  | basic | twoTone | trigonometric | reconstruction
  deriving DecidableEq, Repr

namespace Topic

/-- The titles of the labs, in their order. -/
def titles : List (Topic × String) :=
  [(basic, "Lab 4.1: Basic Hermitian Symmetry"),
   (twoTone, "Lab 4.2: Two-Tone Signal Symmetry"),
   (trigonometric, "Lab 4.3: Complex to Trigonometric Conversion"),
   (reconstruction, "Lab 4.4: Signal Reconstruction")]

/-- The headings on the pages of the labs, the most specific first. -/
def headings : List (Topic × String) :=
  [(reconstruction, "SIGNAL RECONSTRUCTION"),
   (trigonometric, "TRIGONOMETRIC COEFFICIENTS"),
   (twoTone, "TWO-TONE"),
   (basic, "HERMITIAN SYMMETRY CHECK")]

/-- The markers of the demonstrations, titles first. -/
def markers : List (Topic × String) := titles ++ headings

/-- The demonstration that a program's text asks for. -/
def ofText? (code : Text) : Option Topic :=
  (markers.find? fun marker => Text.includes marker.2 code).map (·.1)

end Topic

/-- The wording of a fault of components. -/
def ComponentFault.message : ComponentFault → Text
  | .unknownWave name => Text.quoted name
  | .arithmetic fault => fault.message

/-- The demonstration of a topic with the given waves, or the message of its failure. -/
def demonstrateWith (waves : Waves) (topic : Topic) : Except Text Demonstration :=
  let result := match topic with
    | .basic => basicDemonstration waves
    | .twoTone => twoToneDemonstration waves
    | .trigonometric => trigonometricDemonstration waves
    | .reconstruction => reconstructionDemonstration waves
  result.mapError ComponentFault.message

/-- The demonstration of a topic with the sine and the cosine of the platform. -/
def demonstrate (topic : Topic) : Except Text Demonstration :=
  demonstrateWith .platform topic

/-- The transcript for a program without a marker. -/
def generalTranscript (code : Text) : Except SimulationFault (List Text) := do
  let rate ← Parameter.sampleRate code defaultSampleRate
  let waves : List Text :=
    if Text.hasCall ["sin", "cos"] code then [">> Generating signal..."] else []
  let transforms : List Text :=
    if Text.hasCall ["fft"] code then [">> Computing frequency analysis..."] else []
  let opening : List Text :=
    [">> Running Hermitian symmetry demonstration...",
     ">> Sampling frequency: " ++ Text.ofInt rate ++ " Hz"]
  let closing : Text := ">> Hermitian symmetry verified successfully"
  .ok (opening ++ waves ++ transforms ++ [closing])

/-- What is shown in place of a program that failed. -/
def replacement (demonstrate : Topic → Except Text Demonstration) (code : Text) :
    Except Text Demonstration :=
  match Topic.ofText? code with
  | some topic => demonstrate topic
  | none =>
    match generalTranscript code with
    | .ok transcript => .ok ⟨transcript, []⟩
    | .error fault => .error fault.message

/-- The outcome of a replacement. -/
def replacementOutcome (elapsed : Float) : Except Text Demonstration → Outcome
  | .ok shown => .succeeded shown.transcript shown.dataset (some elapsed)
  | .error message => .failed message [Program.errorLine message] (some elapsed)

/-- The outcome of a lab program. -/
def execute (s : Settings) (clock draw : Nat → Float)
    (demonstrate : Topic → Except Text Demonstration) (code : Text) : Outcome :=
  let clock' := Program.clockFrom clock 1
  let p := Program.execute s clock' draw 0 code
  let outcome := p.outcome clock'
  if outcome.success then outcome
  else
    replacementOutcome (Program.milliseconds (clock 0) (clock (1 + p.readings)))
      (replacement demonstrate code)

end SignalLab.Lab
