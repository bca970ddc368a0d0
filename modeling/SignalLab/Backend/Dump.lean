import SignalLab.Program.Plot

/-!
# Variable dumps — the series of the variables that a process leaves behind

A dump has the entries `t`, `x`, `fs` and `X_mag`.  Vectors are lists, or lists of one-element lists if
they are columns; a number stands for a vector of one.
-/

namespace SignalLab.Dump

/-- The first element of a row, or the item itself. -/
def rowHead : Payload → Payload
  | .list (p :: _) => p
  | p => p

/-- The elements of a dumped vector. -/
def elements : Payload → List Payload
  | .list items => items.map rowHead
  | .bool b => [.bool b]
  | .integer n => [.integer n]
  | .real x => [.real x]
  | _ => []

/-- The sample rate of a dump. -/
def sampleRate : Payload → Except Payload.Fault Float
  | .bool b => (Payload.bool b).toReal
  | .integer n => (Payload.integer n).toReal
  | .real x => .ok x
  | _ => .ok (Double.ofNat defaultSampleRate)

/-- The elements under a name. -/
def elementsAt (entries : Keyed Payload) (name : Text) : List Payload :=
  elements ((Keyed.find? name entries).getD .null)

/-- The series over time. -/
def timeSeries (t x : List Payload) : Series :=
  let n := min t.length x.length
  ⟨t.take n, x.take n, .line, .text "Signal"⟩

/-- The series over frequency. -/
def frequencySeries (fs : Float) (magnitudes : List Payload) : Series :=
  ⟨(Plot.halfFrequencies fs magnitudes.length).map .real,
    magnitudes.take ((magnitudes.length + 1) / 2), .line, .text "Frequency Spectrum"⟩

/-- The series of the entries of a dump. -/
def datasetOfEntries (entries : Keyed Payload) : Except Payload.Fault (Option Dataset) :=
  match elementsAt entries "t", elementsAt entries "x", elementsAt entries "X_mag" with
  | [], _, _ => .ok none
  | _, [], _ => .ok none
  | t, x, [] => .ok (some [(Plot.timeName, timeSeries t x)])
  | t, x, magnitudes => do
    let fs ← sampleRate ((Keyed.find? "fs" entries).getD .null)
    .ok (some [(Plot.timeName, timeSeries t x),
      (Plot.frequencyName, frequencySeries fs magnitudes)])

/-- The series of a dump; an empty one has none. -/
def dataset (dumped : Payload) : Except Payload.Fault (Option Dataset) :=
  if dumped.truthy then do datasetOfEntries (← dumped.entries "get") else .ok none

end SignalLab.Dump
