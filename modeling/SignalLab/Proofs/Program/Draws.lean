import SignalLab.Proofs.Fallible
import SignalLab.Proofs.Program.Transcript

/-!
# Draws — what a statement takes from the generator

Only an assignment of random numbers draws, and only after its sizes are known and within the limit.
`Statement.randomVectors` reads off the random vectors that a statement evaluates: one if it assigns
random numbers and succeeds, none otherwise.

  * `Takes draw vectors before after` — random vectors, one behind the other, are the samples of the
    draws from number `before` up to number `after`, none of them skipped and none used twice.
    `Statement.exec_takes` says so of a statement, whether it succeeds or fails.
  * `Statement.exec_advance` — a statement looks at the number of draws made before only to draw
    further: it has the same effect on a generator that was advanced by them.
-/

namespace SignalLab

open Fallible

namespace Shape

variable {s : Settings} {draw : Nat → Float} {used : Nat} {store : Store}

/-! ## Right-hand sides that do not draw -/

/-- Whether a right-hand side asks for random numbers. -/
def isRandom : Shape → Bool
  | .random _ => true
  | _ => false

/-- A value without random numbers draws none. -/
theorem draws_of_undrawn {r : Except Failure Value} {drawn : Drawn} (h : undrawn r = .ok drawn) :
    drawn.draws = 0 := by
  obtain ⟨v, -, rfl⟩ := map_ok_iff.mp h
  rfl

/-- Only a random shape draws numbers. -/
theorem draws_of_not_random {shape : Shape} (h : shape.isRandom = false) {drawn : Drawn}
    (hvalue : shape.value s draw used store = .ok drawn) : drawn.draws = 0 := by
  cases shape with
  | random sizes => cases h
  | range r => exact draws_of_undrawn hvalue
  | wave isSine => exact draws_of_undrawn hvalue
  | transform argument => exact draws_of_undrawn hvalue
  | literal x =>
      cases hvalue
      rfl
  | arithmetic expr => exact draws_of_undrawn hvalue

/-! ## Samples -/

/-- As many samples are drawn as asked for. -/
theorem length_randomSamples (draw : Nat → Float) (used count : Nat) :
    (randomSamples draw used count).length = count := by
  rw [randomSamples, List.length_map, List.length_range]

/-- The samples from the first draw on: each draw is stretched from `[0, 1)` to `[-1, 1)`. -/
theorem randomSamples_zero (draw : Nat → Float) (count : Nat) :
    randomSamples draw 0 count = (List.range count).map fun i => draw i * 2.0 - 1.0 := by
  simp only [randomSamples, Nat.zero_add]

/-- Samples of one stretch of draws and of the next one are those of the two together. -/
theorem randomSamples_add (draw : Nat → Float) (used m n : Nat) :
    randomSamples draw used (m + n) =
      randomSamples draw used m ++ randomSamples draw (used + m) n := by
  rw [randomSamples, List.range_add, List.map_append, List.map_map]
  simp only [randomSamples, Function.comp_def, Nat.add_assoc]

end Shape

/-! ## Stretches of draws -/

/-- Random vectors are, one behind the other, the samples of the draws from number `before` up to
number `after`. -/
structure Takes (draw : Nat → Float) (vectors : List (List Float)) (before after : Nat) : Prop where
  samples : vectors.flatten = Shape.randomSamples draw before vectors.flatten.length
  count : after = before + vectors.flatten.length

namespace Takes

variable {draw : Nat → Float} {vectors vectors' : List (List Float)} {a b c : Nat}

/-- Nothing takes no number. -/
theorem nil (draw : Nat → Float) (a : Nat) : Takes draw [] a a :=
  ⟨rfl, rfl⟩

/-- One vector takes the numbers that it counts. -/
theorem single (draw : Nat → Float) (a count : Nat) :
    Takes draw [Shape.randomSamples draw a count] a (a + count) := by
  have hlength := Shape.length_randomSamples draw a count
  constructor
  · rw [List.flatten_singleton, hlength]
  · rw [List.flatten_singleton, hlength]

/-- Two stretches of draws, one behind the other, are one. -/
theorem append (h : Takes draw vectors a b) (h' : Takes draw vectors' b c) :
    Takes draw (vectors ++ vectors') a c := by
  have hcount := h.count
  have hcount' := h'.count
  constructor
  · rw [List.flatten_append, List.length_append, Shape.randomSamples_add, ← hcount, ← h.samples,
      ← h'.samples]
  · rw [List.flatten_append, List.length_append]
    omega

end Takes

namespace Statement

/-- The random vectors that a statement evaluates. -/
def randomVectors (s : Settings) (draw : Nat → Float) (st : State) : Statement → List (List Float)
  | .assign _ expr =>
    match Shape.ofText expr, evaluateExpression s draw st.draws st.store expr with
    | .random _, .ok ⟨.realVector xs, _⟩ => [xs]
    | _, _ => []
  | _ => []

variable {s : Settings} {draw : Nat → Float} {st : State}

/-- Printing draws no number. -/
theorem draws_emitAll (s : Settings) (st : State) (lines : List Text) :
    (emitAll s st lines).1.draws = st.draws := by
  obtain ⟨front, -, h⟩ := emitAll_eq_withLines s st lines
  rw [h]
  rfl

/-- The draws of an assignment, by its shape and what that comes to. -/
theorem assignTo_takes (s : Settings) (draw : Nat → Float) (st : State) (name expr : Text) :
    Takes draw ((assign name expr).randomVectors s draw st) st.draws
      (assignTo s draw st name expr).1.draws := by
  rw [randomVectors, assignTo, evaluateExpression]
  cases hvalue : (Shape.ofText expr).value s draw st.draws st.store with
  | error failure =>
      -- nothing is bound, and nothing was drawn
      cases Shape.ofText expr <;> exact Takes.nil draw st.draws
  | ok drawn =>
      cases hrandom : (Shape.ofText expr).isRandom with
      | false =>
          have hdraws := Shape.draws_of_not_random hrandom hvalue
          cases hshape : Shape.ofText expr with
          | random sizes =>
              rw [hshape] at hrandom
              cases hrandom
          | _ =>
              show Takes draw [] st.draws (st.draws + drawn.draws)
              rw [hdraws]
              exact Takes.nil draw st.draws
      | true =>
          -- the samples of the vector are the draws that it is said to take
          cases hshape : Shape.ofText expr with
          | random sizes =>
              rw [hshape] at hvalue
              obtain ⟨count, -, h⟩ := bind_ok_iff.mp hvalue
              cases h
              exact Takes.single draw st.draws count
          | _ =>
              rw [hshape] at hrandom
              cases hrandom

/-- A statement takes the draws of the random vectors it evaluates, and no others. -/
theorem exec_takes (s : Settings) (draw : Nat → Float) (st : State) (t : Statement) :
    Takes draw (t.randomVectors s draw st) st.draws (t.exec s draw st).1.draws := by
  have hprint : ∀ lines, Takes draw [] st.draws (emitAll s st lines).1.draws := by
    intro lines
    rw [draws_emitAll]
    exact Takes.nil draw st.draws
  cases t with
  | assign name expr => exact assignTo_takes s draw st name expr
  | print call =>
      rw [exec_print]
      exact hprint _
  | plot => exact Takes.nil draw st.draws
  | clearAll => exact Takes.nil draw st.draws
  | clear names => exact Takes.nil draw st.draws
  | clearConsole => exact hprint _
  | close => exact Takes.nil draw st.draws
  | echo text => exact hprint _
  | blank => exact Takes.nil draw st.draws

/-- An assignment that fails changes nothing, so that it takes no draw either. -/
theorem exec_assign_of_failure {name expr : Text} {failure : Failure}
    (h : ((assign name expr).exec s draw st).2 = some failure) :
    ((assign name expr).exec s draw st).1 = st := by
  rw [exec, assignTo] at h ⊢
  cases hvalue : evaluateExpression s draw st.draws st.store expr with
  | error failure => rfl
  | ok drawn =>
      rw [hvalue] at h
      cases h

end Statement

/-! ## Advanced generators -/

/-- A generator after a number of draws. -/
def advanced (draw : Nat → Float) (draws : Nat) : Nat → Float :=
  fun k => draw (draws + k)

/-- The state with more draws made before. -/
def State.advance (draws : Nat) (st : State) : State :=
  { st with draws := draws + st.draws }

namespace Shape

/-- The stream goes on where it was left. -/
theorem randomSamples_advanced (draw : Nat → Float) (draws used count : Nat) :
    randomSamples (advanced draw draws) used count =
      randomSamples draw (draws + used) count := by
  simp only [randomSamples, advanced, Nat.add_assoc]

/-- A value depends on the draws that are left, not on how many were made. -/
theorem value_advanced (s : Settings) (draw : Nat → Float) (draws used : Nat) (store : Store)
    (shape : Shape) :
    shape.value s (advanced draw draws) used store = shape.value s draw (draws + used) store := by
  cases shape with
  | random sizes =>
      rw [value, value]
      simp only [randomSamples_advanced]
  | range r => rfl
  | wave isSine => rfl
  | transform argument => rfl
  | literal x => rfl
  | arithmetic expr => rfl

end Shape

namespace Statement

/-- Printing does not look at the stream. -/
theorem emitAll_advance (s : Settings) (draws : Nat) (st : State) (lines : List Text) :
    emitAll s (st.advance draws) lines =
      ((emitAll s st lines).1.advance draws, (emitAll s st lines).2) := by
  induction lines generalizing st with
  | nil => rfl
  | cons line lines ih =>
      rw [emitAll_cons, emitAll_cons]
      show (if (transcriptSize (st.transcript ++ [line]) : Int) ≤ s.maxOutput then
        emitAll s ((st.withLines [line]).advance draws) lines else _) = _
      by_cases h : (transcriptSize (st.transcript ++ [line]) : Int) ≤ s.maxOutput
      · rw [if_pos h, if_pos h, ih]
      · rw [if_neg h, if_neg h]

/-- An assignment draws from where the stream was left. -/
theorem assignTo_advance (s : Settings) (draw : Nat → Float) (draws : Nat) (st : State)
    (name expr : Text) :
    assignTo s draw (st.advance draws) name expr =
      ((assignTo s (advanced draw draws) st name expr).1.advance draws,
        (assignTo s (advanced draw draws) st name expr).2) := by
  have hvalue : evaluateExpression s (advanced draw draws) st.draws st.store expr =
      evaluateExpression s draw (draws + st.draws) st.store expr :=
    Shape.value_advanced s draw draws st.draws st.store (Shape.ofText expr)
  have hdraws : (st.advance draws).draws = draws + st.draws := rfl
  have hstore : (st.advance draws).store = st.store := rfl
  rw [assignTo, assignTo, hvalue, hdraws, hstore]
  cases evaluateExpression s draw (draws + st.draws) st.store expr with
  | error failure => rfl
  | ok drawn => simp only [State.advance, Nat.add_assoc]

/-- A statement has the same effect after draws as on the generator that they advanced. -/
theorem exec_advance (s : Settings) (draw : Nat → Float) (draws : Nat) (st : State)
    (t : Statement) :
    t.exec s draw (st.advance draws) =
      ((t.exec s (advanced draw draws) st).1.advance draws,
        (t.exec s (advanced draw draws) st).2) := by
  cases t with
  | assign name expr => exact assignTo_advance s draw draws st name expr
  | print call =>
      rw [exec_print, exec_print]
      exact emitAll_advance s draws st _
  | plot => rfl
  | clearAll => rfl
  | clear names => rfl
  | clearConsole => exact emitAll_advance s draws st _
  | close => rfl
  | echo text => exact emitAll_advance s draws st _
  | blank => rfl

end Statement

end SignalLab
