import SignalLab.Spectrum.Transform

/-!
# Harmonics — trigonometric coefficients, reconstruction and phase unwrapping

An averaged complex coefficient `c` stands for the cosine amplitude `2 re c` and the sine amplitude
`-2 im c`.  A signal is rebuilt from the first coefficients of its spectrum.  A phase is unwrapped by
adding full turns to a sample until it is no more than half a turn from the one before.
-/

namespace SignalLab.Spectrum

/-- The cosine and sine amplitudes of an averaged coefficient. -/
def toTrigonometric (c : ComplexDouble) : Float × Float :=
  (2.0 * c.re, -2.0 * c.im)

/-- The averaged coefficient of a cosine and a sine amplitude. -/
def ofTrigonometric (a b : Float) : ComplexDouble :=
  ⟨a / 2.0, -b / 2.0⟩

/-- How many of `size` coefficients are used when `terms` are asked for; none asked for, or zero,
means all. -/
def usedTerms (terms : Option Int) (size : Nat) : Nat :=
  match terms with
  | some m => if m = 0 then size else min m.toNat size
  | none => size

/-- Sample `n` rebuilt from a constant and the harmonics, each given with its number. -/
def rebuiltSample (size : Float) (constant : Float) (harmonics : List (ComplexDouble × Float))
    (n : Float) (waves : Waves := .platform) : Float :=
  harmonics.foldl
    (fun sum (c, k) =>
      let angle := turn * k * n / size
      sum + 2.0 * (c.re * waves.cosine angle - c.im * waves.sine angle))
    constant

/-- The first `count` samples rebuilt from averaged coefficients. -/
def partialSum (coefficients : List ComplexDouble) (count : Nat) (terms : Option Int)
    (waves : Waves := .platform) : List Float :=
  let size := coefficients.length
  let constant := (coefficients.head?.map ComplexDouble.re).getD 0.0
  let harmonics := (coefficients.take (usedTerms terms size)).zipIdx.tail.map fun (c, k) =>
    (c, Double.ofNat k)
  (List.range count).map fun n =>
    rebuiltSample (Double.ofNat size) constant harmonics (Double.ofNat n) waves

/-- Subtracts full turns while `x` is more than half a turn above `before`, in at most `steps`
tests. -/
def lowerToward (before : Float) (steps : Nat) (x : Float) : Option Float :=
  match steps with
  | 0 => none
  | n + 1 => if Double.pi < x - before then lowerToward before n (x - turn) else some x

/-- Adds full turns while `x` is more than half a turn below `before`, in at most `steps` tests. -/
def raiseToward (before : Float) (steps : Nat) (x : Float) : Option Float :=
  match steps with
  | 0 => none
  | n + 1 => if x - before < -Double.pi then raiseToward before n (x + turn) else some x

/-- The samples behind `before`, unwrapped one after the other. -/
def unwrapAfter (steps : Nat) (before : Float) : List Float → Option (List Float)
  | [] => some []
  | x :: xs => do
    let x ← lowerToward before steps x
    let x ← raiseToward before steps x
    let rest ← unwrapAfter steps x xs
    some (x :: rest)

/-- The unwrapped phase, if no sample takes more than the given number of steps in a direction. -/
def unwrap (steps : Nat) : List Float → Option (List Float)
  | [] => some []
  | x :: xs => do
    let rest ← unwrapAfter steps x xs
    some (x :: rest)

end SignalLab.Spectrum
