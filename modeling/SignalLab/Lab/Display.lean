import SignalLab.Number.ComplexDouble
import SignalLab.Number.Layout
import SignalLab.Spectrum.Pairing

/-!
# Display — numbers and tables in the transcripts of the demonstrations

Numbers have a fixed number of places, and one that is written as zero has no sign.  Errors have two
places and an exponent.
-/

namespace SignalLab.Lab

/-- Whether a number is written as zero: all its digits are. -/
def isWrittenZero (s : Text) : Bool :=
  s.all fun c => c == '-' || c == '0' || c == '.'

/-- A number with the given places, without the sign of a negative zero. -/
def fixedText (places : Nat) (x : Float) : Text :=
  let s := Double.format .fixed places x
  if s.head? = some '-' ∧ isWrittenZero s then s.tail else s

/-- A complex number with the given places. -/
def complexText (places : Nat) (z : ComplexDouble) : Text :=
  fixedText places z.re ++ " + " ++ fixedText places z.im ++ ['i']

/-- An error. -/
def errorText (x : Float) : Text :=
  Double.format .scientific 2 x

/-- The bins, counted from one, of a symmetry table: from the second to the last asked for, and to
the middle at most. -/
def tableBins (size : Nat) (last : Int) : List Nat :=
  List.range' 2 ((min last (size / 2 : Nat)).toNat - 1)

/-- A row of a symmetry table, its bins counted from zero. -/
def symmetryRow (size k : Nat) (error : Float) : Text :=
  let bin := Text.ofNat (k - 1)
  let partner := Text.ofInt (Spectrum.labPartner k size - 1)
  "Bin " ++ bin ++ ": |X[" ++ bin ++ "] - conj(X[" ++ partner ++ "])| = " ++ errorText error

/-- The rows of a symmetry table with their errors. -/
def symmetryRows (spectrum : List ComplexDouble) (last : Int) :
    Except Fault (List (Text × Float)) :=
  (tableBins spectrum.length last).mapM fun (k : Nat) => do
    let error ← Spectrum.labError spectrum k
    .ok (symmetryRow spectrum.length k error, error)

end SignalLab.Lab
