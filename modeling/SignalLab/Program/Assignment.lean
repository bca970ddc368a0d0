import SignalLab.Program.Range
import SignalLab.Program.Store
import SignalLab.Spectrum.Transform
import SignalLab.Text.Pattern

/-!
# Assignments — the value of a right-hand side

A right-hand side is classified by its shape alone, and the first shape that fits counts: a range, a
wave (a call of `sin` or `cos`), a transform (a call of `fft`), random numbers (a call of `rand` or
`randn`), a bare literal, and otherwise arithmetic.  `Shape.ofText` classifies, `Shape.value` works
out the value from the store.

  * A wave looks at the variables `t` and `f` only, whatever its argument says.
  * A transform takes the variable that its argument names.
  * Random numbers lie in `[-1, 1)`; the sizes in the call are multiplied.
-/

namespace SignalLab

/-- What a right-hand side is. -/
inductive Shape where
  | range (r : RangeText)
  | wave (isSine : Bool)
  | transform (argument : Option Text)
  | random (sizes : List Text)
  | literal (x : Float)
  | arithmetic (expr : Text)

namespace Shape

/-! ## Classification -/

/-- The text up to the parenthesis that closes a call, parentheses in it nested once at most. -/
def callBody? (inside : Bool) : Text → Option Text
  | [] => none
  | c :: s =>
    if c = ')' then
      if inside then (callBody? false s).map (c :: ·) else some []
    else if c = '(' then
      if inside then none else (callBody? true s).map (c :: ·)
    else (callBody? inside s).map (c :: ·)

/-- The argument text of a call of random numbers at the front. -/
def randomCall? (s : Text) : Option Text :=
  match (Text.afterCall? "randn" s).or (Text.afterCall? "rand" s) with
  | some rest => callBody? false rest
  | none => none

/-- The variable a transform at the front is applied to. -/
def transformCall? (s : Text) : Option Text := do
  let rest ← Text.afterCall? "fft" s
  let (name, _) ← Text.takeNamedArgument? rest
  some name

/-- The parts of an argument text that are not blank, trimmed. -/
def argumentTexts (s : Text) : List Text :=
  ((Text.splitTopLevel ',' s).map Text.trim).filter fun part => !part.isEmpty

/-- The shape of a right-hand side that is no range. -/
def ofCall (expr : Text) : Shape :=
  if Text.hasCall ["sin", "cos"] expr then .wave (Text.hasCall ["sin"] expr)
  else if Text.hasCall ["fft"] expr then .transform (Text.searchWord transformCall? expr)
  else
    match Text.searchWord randomCall? expr, Text.readLiteral? expr with
    | some arguments, _ => .random (argumentTexts arguments)
    | none, some x => .literal x
    | none, none => .arithmetic expr

/-- The shape of a right-hand side. -/
def ofText (expr : Text) : Shape :=
  match RangeText.ofText? expr with
  | some r => .range r
  | none => ofCall expr

/-! ## Values -/

/-- A double that a text stands for in a program. -/
def number (s : Settings) (store : Store) (expr : Text) : Except Failure Float :=
  (evaluate s.fallback store.scalars expr).mapError .evaluation

/-- What counts as the value where none can be worked out. -/
def unresolved (s : Settings) (reason : Unresolved) : Except Failure Value :=
  match s.fallback with
  | .zero => .ok .zero
  | .raise => .error (.unresolved reason)

/-- The elements of a range. -/
def rangeValue (s : Settings) (store : Store) (r : RangeText) : Except Failure Value := do
  let start ← number s store r.start
  let step ← match r.step with
    | some step => number s store step
    | none => .ok 1.0
  let stop ← number s store r.stop
  ((rangeElements s.maxVector start step stop).map .realVector).mapError .breach

/-- The samples of a wave at the given times. -/
def waveSamples (isSine : Bool) (frequency : Float) (times : List Float) :
    Except Fault (List Float) :=
  times.mapM fun t => (if isSine then Double.sin else Double.cos) (Spectrum.turn * frequency * t)

/-- A wave over the time vector. -/
def waveValue (s : Settings) (store : Store) (isSine : Bool) : Except Failure Value :=
  match store.realVector? "t" with
  | none => unresolved s .timeVector
  | some times =>
    let frequency := (store.scalar? "f").getD s.defaultFrequency
    ((waveSamples isSine frequency times).map .realVector).mapError .arithmetic

/-- The transform of a variable. -/
def transformValue (s : Settings) (store : Store) (argument : Option Text) :
    Except Failure Value :=
  match argument with
  | none => unresolved s .transformArgument
  | some name =>
    match store.realVector? name with
    | none => unresolved s (.realVector name)
    | some signal => .ok (.complexVector (Spectrum.dft signal))

/-- The variable a text asks the length of, by one of the given functions. -/
def lengthOf? (functions : List String) (arg : Text) : Option Text := do
  let rest ← functions.findSome? fun word => Text.afterCall? word arg
  let (name, rest) ← Text.takeNamedArgument? rest
  if rest.isEmpty then some name else none

/-- The number of elements of a variable: one for a scalar, none without a value. -/
def elementCount : Option Value → Nat
  | none => 0
  | some v => v.length?.getD 1

/-- One of the sizes in a call of random numbers; what is not finite counts as zero. -/
def size (s : Settings) (store : Store) (arg : Text) : Except Failure Int :=
  match lengthOf? ["length", "numel", "size"] arg with
  | some name => .ok (elementCount (store.get? name))
  | none => do
    let x ← number s store arg
    .ok ((Double.toInteger .towardZero x).toOption.getD 0)

/-- The product of sizes; a negative one counts as zero. -/
def totalSize (s : Settings) (store : Store) (args : List Text) : Except Failure Nat :=
  args.foldlM (fun total arg => do
    let n ← size s store arg
    .ok (total * n.toNat)) 1

/-- The random numbers made of the draws from number `used` on. -/
def randomSamples (draw : Nat → Float) (used count : Nat) : List Float :=
  (List.range count).map fun i => draw (used + i) * 2.0 - 1.0

/-- As many random numbers as the sizes say. -/
def randomCount (s : Settings) (store : Store) (sizes : List Text) : Except Failure Nat := do
  let count ← totalSize s store sizes
  if s.maxVector < count then .error (.breach (.randomLength s.maxVector)) else .ok count

/-- A value, and how many draws it took. -/
structure Drawn where
  value : Value
  draws : Nat

/-- A value that took no draws. -/
def undrawn (r : Except Failure Value) : Except Failure Drawn :=
  r.map fun v => ⟨v, 0⟩

/-- The value of a right-hand side of the given shape, `used` draws having been made before. -/
def value (s : Settings) (draw : Nat → Float) (used : Nat) (store : Store) :
    Shape → Except Failure Drawn
  | .range r => undrawn (rangeValue s store r)
  | .wave isSine => undrawn (waveValue s store isSine)
  | .transform argument => undrawn (transformValue s store argument)
  | .random sizes => do
    let count ← randomCount s store sizes
    .ok ⟨.realVector (randomSamples draw used count), count⟩
  | .literal x => .ok ⟨.scalar x, 0⟩
  | .arithmetic expr => undrawn ((number s store expr).map .scalar)

end Shape

/-- The value of a right-hand side, `used` draws having been made before. -/
def evaluateExpression (s : Settings) (draw : Nat → Float) (used : Nat) (store : Store)
    (expr : Text) : Except Failure Shape.Drawn :=
  (Shape.ofText expr).value s draw used store

end SignalLab
