import SignalLab.Text.Basic

/-!
# Echo — the transcript of a simulated program

Every line of the program that is neither blank nor a comment is echoed.  A line that assigns
nothing and draws something announces a plot; one that does neither and does not end in a semicolon
announces its output.
-/

namespace SignalLab.Echo

/-- The words that make a line draw something. -/
def plotWords : List String := ["plot", "stem", "mesh"]

/-- An echoed line. -/
def echoed (line : Text) : Text :=
  ">> " ++ line

/-- The line behind one that draws something. -/
def plotLine : Text := ">> Generating plot..."

/-- The line behind one that has a value to show. -/
def answerLine : Text := "ans = [Output would appear here in real Octave]"

/-- What follows the echo of a line. -/
def followUp (line : Text) : List Text :=
  if line.contains '=' && !Text.includes "function" line then []
  else if plotWords.any fun word => Text.includes word line then [plotLine]
  else if line.getLast? = some ';' then []
  else [answerLine]

/-- What is printed for a trimmed line. -/
def lineEcho (line : Text) : List Text :=
  if line.isEmpty ∨ line.head? = some '%' then [] else echoed line :: followUp line

/-- What is printed for a program; its lines end at line feeds only. -/
def transcribe (code : Text) : List Text :=
  (Text.splitAt '\n' code).flatMap fun line => lineEcho (Text.trim line)

end SignalLab.Echo
