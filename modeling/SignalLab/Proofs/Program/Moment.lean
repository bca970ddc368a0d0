import Mathlib.Data.List.Infix
import SignalLab.Program.Run

/-!
# Moments — the points of a run between its statements

`runFrom` computes what a run comes to; this file takes it apart.  A `Moment` is a point between two
statements, `Reaches` leads from a moment to the later ones by statements that are dispatched and
succeed, and `Ends` is how a run comes to its end at a moment: no statement is left, the clock or
the limit on statements admits none, or the dispatched statement fails.

  * `Reaches.finish_eq` — all moments of a run come to the same end.
  * `exists_ends` — every run has a last moment, and ends there in one of these ways.

A property of whole runs is therefore an invariant of `Reaches` and a look at the ends.
-/

namespace SignalLab.Program

/-- A point of a run between two statements: how many have been dispatched, the state, and the
statements to come with the numbers of their lines. -/
structure Moment where
  steps : Nat
  state : State
  rest : List (Nat × Text)

namespace Moment

/-- The moment at which a program begins. -/
def start (draws : Nat) (code : Text) : Moment :=
  ⟨0, .initial draws, statements code⟩

/-- What the run comes to from a moment on. -/
def finish (s : Settings) (clock draw : Nat → Float) (m : Moment) : Progress :=
  runFrom s clock draw m.steps m.state m.rest

end Moment

/-- Whether the clock and the limit on statements admit one more after `steps` of them. -/
def Admits (s : Settings) (clock : Nat → Float) (steps : Nat) : Prop :=
  ¬ s.maxTime < clock (steps + 1) - clock 0 ∧ ¬ s.maxSteps < (steps + 1 : Nat)

/-- At the moment `m` the statement `text` of line `line` is dispatched. -/
structure Dispatches (s : Settings) (clock : Nat → Float) (m : Moment) (line : Nat)
    (text : Text) : Prop where
  next : m.rest.head? = some (line, text)
  admitted : Admits s clock m.steps

/-- The moments of a run from `m` on. -/
inductive Reaches (s : Settings) (clock draw : Nat → Float) (m : Moment) : Moment → Prop
  | refl : Reaches s clock draw m m
  | step {steps : Nat} {st st' : State} {line : Nat} {text : Text} {rest : List (Nat × Text)}
      (before : Reaches s clock draw m ⟨steps, st, (line, text) :: rest⟩)
      (admitted : Admits s clock steps)
      (succeeds : Statement.run s draw st text = (st', none)) :
      Reaches s clock draw m ⟨steps + 1, st', rest⟩

/-- How a run ends at a moment, and what it has come to then. -/
inductive Ends (s : Settings) (clock draw : Nat → Float) : Moment → Progress → Prop
  | done {steps : Nat} {st : State} : Ends s clock draw ⟨steps, st, []⟩ ⟨st, steps, none⟩
  | overdue {steps : Nat} {st : State} {line : Nat} {text : Text} {rest : List (Nat × Text)}
      (late : s.maxTime < clock (steps + 1) - clock 0) :
      Ends s clock draw ⟨steps, st, (line, text) :: rest⟩
        ⟨st, steps + 1, some ⟨line, .breach .time⟩⟩
  | exhausted {steps : Nat} {st : State} {line : Nat} {text : Text} {rest : List (Nat × Text)}
      (many : s.maxSteps < (steps + 1 : Nat)) :
      Ends s clock draw ⟨steps, st, (line, text) :: rest⟩
        ⟨st, steps + 1, some ⟨line, .breach .steps⟩⟩
  | failed {steps : Nat} {st st' : State} {line : Nat} {text : Text} {rest : List (Nat × Text)}
      {failure : Failure} (admitted : Admits s clock steps)
      (fails : Statement.run s draw st text = (st', some failure)) :
      Ends s clock draw ⟨steps, st, (line, text) :: rest⟩
        ⟨st', steps + 1, some ⟨line, failure⟩⟩

variable {s : Settings} {clock draw : Nat → Float}

/-! ## One statement -/

/-- A statement that succeeds is followed by the rest. -/
theorem runFrom_of_success {steps line : Nat} {st st' : State} {text : Text}
    (hadm : Admits s clock steps) (hrun : Statement.run s draw st text = (st', none))
    (rest : List (Nat × Text)) :
    runFrom s clock draw steps st ((line, text) :: rest) =
      runFrom s clock draw (steps + 1) st' rest := by
  rw [runFrom, if_neg hadm.1, if_neg hadm.2, hrun]

/-- A statement that fails is the last one. -/
theorem runFrom_of_failure {steps line : Nat} {st st' : State} {text : Text} {failure : Failure}
    (hadm : Admits s clock steps) (hrun : Statement.run s draw st text = (st', some failure))
    (rest : List (Nat × Text)) :
    runFrom s clock draw steps st ((line, text) :: rest) =
      ⟨st', steps + 1, some ⟨line, failure⟩⟩ := by
  rw [runFrom, if_neg hadm.1, if_neg hadm.2, hrun]

/-! ## Whole runs -/

/-- What is reached from a moment that is reached is reached. -/
theorem Reaches.trans {m₁ m₂ m₃ : Moment} (h₁ : Reaches s clock draw m₁ m₂)
    (h₂ : Reaches s clock draw m₂ m₃) : Reaches s clock draw m₁ m₃ := by
  induction h₂ with
  | refl => exact h₁
  | step _ hadm hrun ih => exact .step ih hadm hrun

/-- All moments of a run come to the same end. -/
theorem Reaches.finish_eq {m m' : Moment} (h : Reaches s clock draw m m') :
    m.finish s clock draw = m'.finish s clock draw := by
  induction h with
  | refl => rfl
  | step _ hadm hrun ih =>
      rw [ih]
      exact runFrom_of_success hadm hrun _

/-- The statements to come are the last ones of those at the start. -/
theorem Reaches.rest_suffix {m m' : Moment} (h : Reaches s clock draw m m') :
    m'.rest <:+ m.rest := by
  induction h with
  | refl => exact List.suffix_rfl
  | step _ _ _ ih => exact (List.suffix_cons _ _).trans ih

/-- Every run has a last moment. -/
theorem exists_ends (s : Settings) (clock draw : Nat → Float) (m : Moment) :
    ∃ m', Reaches s clock draw m m' ∧ Ends s clock draw m' (m.finish s clock draw) := by
  obtain ⟨steps, st, rest⟩ := m
  induction rest generalizing steps st with
  | nil => exact ⟨_, .refl, .done⟩
  | cons stmt rest ih =>
      obtain ⟨line, text⟩ := stmt
      -- the clock is asked before the limit on statements, and both before the statement itself
      by_cases hlate : s.maxTime < clock (steps + 1) - clock 0
      · refine ⟨_, .refl, ?_⟩
        rw [Moment.finish, runFrom]
        dsimp only
        rw [if_pos hlate]
        exact .overdue hlate
      by_cases hmany : s.maxSteps < (steps + 1 : Nat)
      · refine ⟨_, .refl, ?_⟩
        rw [Moment.finish, runFrom]
        dsimp only
        rw [if_neg hlate, if_pos hmany]
        exact .exhausted hmany
      rcases hrun : Statement.run s draw st text with ⟨st', failure | failure⟩
      · obtain ⟨m', hreach, hends⟩ := ih (steps + 1) st'
        have hstep : Reaches s clock draw ⟨steps, st, (line, text) :: rest⟩
            ⟨steps + 1, st', rest⟩ := .step .refl ⟨hlate, hmany⟩ hrun
        refine ⟨m', hstep.trans hreach, ?_⟩
        rw [hstep.finish_eq]
        exact hends
      · refine ⟨_, .refl, ?_⟩
        rw [Moment.finish, runFrom_of_failure ⟨hlate, hmany⟩ hrun]
        exact .failed ⟨hlate, hmany⟩ hrun

/-! ## Outcomes -/

namespace Progress

variable {p : Progress}

/-- A run succeeds if nothing stops it. -/
theorem success_outcome_iff (clock : Nat → Float) (p : Progress) :
    (p.outcome clock).success = true ↔ p.stop = none := by
  rw [outcome]
  cases h : p.stop with
  | none => simp [Outcome.succeeded, Outcome.success, Verdict.isSuccess]
  | some stop =>
      simp only [Outcome.failed, Outcome.success, Verdict.ofMessage, reduceCtorEq, iff_false]
      split <;> simp [Verdict.isSuccess]

/-- The transcript of a success is what was printed. -/
theorem transcript_outcome_of_success (clock : Nat → Float) (h : p.stop = none) :
    (p.outcome clock).transcript = p.state.transcript.map .text := by
  rw [outcome, h]
  rfl

/-- What stops a run is said in a further line. -/
theorem transcript_outcome_of_stop (clock : Nat → Float) {stop : Stop} (h : p.stop = some stop) :
    (p.outcome clock).transcript =
      p.state.transcript.map .text ++ [.text (errorLine stop.message)] := by
  rw [outcome, h]
  exact List.map_append

/-- An outcome shows what was printed, and behind it the error line if the run was stopped. -/
theorem transcript_prefix_outcome (clock : Nat → Float) (p : Progress) :
    p.state.transcript.map .text <+: (p.outcome clock).transcript := by
  cases h : p.stop with
  | none => rw [transcript_outcome_of_success clock h]
  | some stop =>
      rw [transcript_outcome_of_stop clock h]
      exact List.prefix_append _ _

/-- A failed outcome without its error line shows what was printed. -/
theorem dropLast_transcript_outcome (clock : Nat → Float)
    (h : (p.outcome clock).success = false) :
    (p.outcome clock).transcript.dropLast = p.state.transcript.map .text := by
  cases hstop : p.stop with
  | none =>
      rw [(success_outcome_iff clock p).mpr hstop] at h
      cases h
  | some stop =>
      rw [transcript_outcome_of_stop clock hstop, List.dropLast_concat]

end Progress

end SignalLab.Program
