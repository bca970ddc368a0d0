import SignalLab.Spectrum.Transform

/-!
# Windows — weights that fade a signal out at its ends

A window is a weight for every sample of a signal, made of cosines of the sample's place.  Signals of
fewer than two samples are left alone, and so is every signal under the rectangular window.
-/

namespace SignalLab.Spectrum

/-- The windows. -/
inductive Window where
  | rectangular | hanning | hamming | blackman | flattop
  deriving DecidableEq, Repr

namespace Window

/-- The windows by name. -/
def table : List (String × Window) :=
  [("rectangular", .rectangular), ("hanning", .hanning), ("hamming", .hamming),
   ("blackman", .blackman), ("flattop", .flattop)]

/-- The window with the given name. -/
def ofName? (name : Text) : Option Window :=
  (table.find? fun (w, _) => w.toList = name).map (·.2)

/-- The window with the given name; an unknown name is the rectangular one. -/
def ofName (name : Text) : Window :=
  (ofName? name).getD .rectangular

/-- The cosine of `turns` half turns per signal, at sample `i` of a signal whose last is `last`. -/
def wave (halfTurns i last : Float) : Float :=
  Float.cos (halfTurns * Double.pi * i / last)

/-- The weight of sample `i` of a signal whose last sample is `last`. -/
def weight (w : Window) (i last : Float) : Float :=
  let c1 := wave 2.0 i last
  let c2 := wave 4.0 i last
  match w with
  | .rectangular => 1.0
  | .hanning => 0.5 * (1.0 - c1)
  | .hamming => 0.54 - 0.46 * c1
  | .blackman => 0.42 - 0.5 * c1 + 0.08 * c2
  | .flattop =>
    0.21557895 - 0.41663158 * c1 + 0.277263158 * c2 - 0.083578947 * wave 6.0 i last +
      0.006947368 * wave 8.0 i last

/-- The signal with every sample weighted. -/
def apply (w : Window) (signal : List Float) : List Float :=
  if w = .rectangular ∨ signal.length < 2 then signal
  else
    let last := Double.ofNat (signal.length - 1)
    (positioned signal).map fun (x, i) => x * w.weight i last

end Window

end SignalLab.Spectrum
